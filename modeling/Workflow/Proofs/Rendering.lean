import Workflow.Action.Builtin
import Workflow.Proofs.Document
import Workflow.Proofs.Outcome
import Workflow.Proofs.Passage

/-!
# Messages that are rendered twice

A step that writes to the log has its message rendered with the rest of its parameters, and then
once more by the action.  The second time changes the message only where the text that came of the
first has a placeholder whose path leads somewhere.
-/

namespace Workflow

open Time

namespace Template

/-! ## Templates and their parts -/

/-- The text of a part in its template. -/
def Segment.source : Segment → List Char
  | .char c => [c]
  | .hole placeholder => placeholder.source

/-- A path without braces between two ends is what a text goes on with after the first end. -/
theorem isPrefix_of_closes {opening closing rest last : List Char}
    (closes : rest.dropWhile (!isBrace ·) = closing ++ last) :
    opening ++ rest.takeWhile (!isBrace ·) ++ closing <+: opening ++ rest := by
  refine ⟨last, ?_⟩
  rw [List.append_assoc, List.append_assoc, ← closes, List.takeWhile_append_dropWhile]

theorem double?_isPrefix {cs : List Char} {found : Placeholder} (finds : double? cs = some found) :
    found.source ≠ [] ∧ found.source <+: cs := by
  simp only [double?] at finds
  split at finds
  · next rest =>
      split at finds
      · next last closes =>
          split at finds
          · cases finds
          · cases finds
            refine ⟨by simp, ?_⟩
            exact @isPrefix_of_closes ['\x7b', '\x7b'] ['\x7d', '\x7d'] rest last closes
      · cases finds
  · cases finds

theorem single?_isPrefix {cs : List Char} {found : Placeholder} (finds : single? cs = some found) :
    found.source ≠ [] ∧ found.source <+: cs := by
  simp only [single?] at finds
  split at finds
  · next rest =>
      split at finds
      · next last closes =>
          split at finds
          · cases finds
          · cases finds
            refine ⟨by simp, ?_⟩
            exact @isPrefix_of_closes ['\x7b'] ['\x7d'] rest last closes
      · cases finds
  · cases finds

theorem placeholder?_isPrefix {cs : List Char} {found : Placeholder}
    (finds : placeholder? cs = some found) : found.source ≠ [] ∧ found.source <+: cs := by
  rcases Option.or_eq_some_iff.mp finds with double | ⟨_, single⟩
  · exact double?_isPrefix double
  · exact single?_isPrefix single

/-- The parts of a template make up its text. -/
theorem flatMap_source_segmentsFrom (cs : List Char) (skip : Nat) :
    (segmentsFrom skip cs).flatMap Segment.source = cs.drop skip := by
  induction cs generalizing skip with
  | nil => cases skip <;> rfl
  | cons c rest ih =>
      cases skip with
      | succ skip => exact ih skip
      | zero =>
          simp only [segmentsFrom]
          cases finds : placeholder? (c :: rest) with
          | none => simp [Segment.source, ih]
          | some found =>
              obtain ⟨some, last, whole⟩ := placeholder?_isPrefix finds
              cases begins : found.source with
              | nil => exact absurd begins some
              | cons first more =>
                  rw [begins, List.cons_append] at whole
                  cases whole
                  have onward : (segmentsFrom more.length (more ++ last)).flatMap Segment.source =
                      last := by
                    rw [ih, List.drop_left]
                  simpa [Segment.source, begins] using onward

theorem renderSegments_of_unresolved {data : Value} {parts : List Segment}
    (nowhere : ∀ placeholder, .hole placeholder ∈ parts →
      Path.get? data placeholder.path = .ok none) :
    renderSegments data parts = .ok (parts.flatMap Segment.source) := by
  induction parts with
  | nil => rfl
  | cons part rest ih =>
      have here : renderSegment data part = .ok part.source := by
        cases part with
        | char c => rfl
        | hole placeholder =>
            simp only [renderSegment, nowhere placeholder List.mem_cons_self]
            rfl
      have later := ih fun placeholder inside =>
        nowhere placeholder (List.mem_cons_of_mem part inside)
      simp only [renderSegments, here, later]
      rfl

/-- No placeholder of a template has a path that leads anywhere. -/
def Unresolved (data : Value) (template : String) : Prop :=
  ∀ placeholder, .hole placeholder ∈ segments template →
    Path.get? data placeholder.path = .ok none

/-- A template whose placeholders lead nowhere is rendered as it stands. -/
theorem render_of_unresolved {data : Value} {template : String}
    (unresolved : Unresolved data template) : render template data = .ok template := by
  have whole : (segments template).flatMap Segment.source = template.toList :=
    flatMap_source_segmentsFrom template.toList 0
  rw [render, renderSegments_of_unresolved unresolved, whole]
  exact congrArg Except.ok String.ofList_toList

end Template

/-! ## Built-in actions carried out in place -/

/-- A procedure in which every built-in action is carried out where it is asked for.  Built-in
actions can be made, and have no prerequisites. -/
def Proc.equipped {α : Type} (now : Timestamp) : Proc α → Proc α
  | .done value => .done value
  | .ask (.make invocation) next =>
    if (Builtin.ofKey? invocation.action).isSome then (next (.ok ())).equipped now
    else .ask (.make invocation) fun answer => (next answer).equipped now
  | .ask (.permits invocation) next =>
    if (Builtin.ofKey? invocation.action).isSome then (next (.ok true)).equipped now
    else .ask (.permits invocation) fun answer => (next answer).equipped now
  | .ask (.perform invocation) next =>
    match Builtin.ofKey? invocation.action with
    | some action =>
      (action.perform invocation.context now).bind fun reply => (next reply).equipped now
    | none => .ask (.perform invocation) fun answer => (next answer).equipped now
  | .ask request next => .ask request fun answer => (next answer).equipped now

/-- Answers among which those to built-in actions come of carrying these out. -/
def Builtin.serving {m : Type → Type} [Monad m] (now : Timestamp)
    (serve : (request : Request) → m request.Answer) : (request : Request) → m request.Answer
  | .make invocation =>
    if (Builtin.ofKey? invocation.action).isSome then pure (.ok ()) else serve (.make invocation)
  | .permits invocation =>
    if (Builtin.ofKey? invocation.action).isSome then pure (.ok true)
    else serve (.permits invocation)
  | .perform invocation =>
    match Builtin.ofKey? invocation.action with
    | some action => (action.perform invocation.context now).perform serve
    | none => serve (.perform invocation)
  | request => serve request

section Equipped

variable {α β : Type} {now : Timestamp}

theorem perform_bind {m : Type → Type} [Monad m] [LawfulMonad m]
    (serve : (request : Request) → m request.Answer) (proc : Proc α) (next : α → Proc β) :
    (proc.bind next).perform serve =
      proc.perform serve >>= fun value => (next value).perform serve := by
  induction proc with
  | done value => simp [Proc.bind, Proc.perform]
  | ask request rest ih => simp [Proc.bind, Proc.perform, ih]

/-- A procedure with the built-in actions in place is carried out as the procedure itself is where
they are carried out on request. -/
theorem perform_equipped {m : Type → Type} [Monad m] [LawfulMonad m]
    (serve : (request : Request) → m request.Answer) (proc : Proc α) :
    (proc.equipped now).perform serve = proc.perform (Builtin.serving now serve) := by
  induction proc with
  | done value => rfl
  | ask request next ih =>
      cases request with
      | make invocation | permits invocation =>
          simp only [Proc.equipped, Proc.perform, Builtin.serving]
          split
          · simp only [ih, pure_bind]
          · simp only [Proc.perform, ih]
      | perform invocation =>
          simp only [Proc.equipped, Proc.perform, Builtin.serving]
          split
          · simp only [perform_bind, ih]
          · simp only [Proc.perform, ih]
      | _ => simp only [Proc.equipped, Proc.perform, Builtin.serving, ih]

theorem equipped_bind (proc : Proc α) (next : α → Proc β) :
    (proc.bind next).equipped now =
      (proc.equipped now).bind fun value => (next value).equipped now := by
  induction proc with
  | done value => rfl
  | ask request rest ih =>
      cases request with
      | make invocation | permits invocation =>
          simp only [Proc.bind, Proc.equipped]
          split
          · exact ih _
          · simp only [Proc.bind, ih]
      | perform invocation =>
          simp only [Proc.bind, Proc.equipped]
          split
          · simp only [ih, Proc.bind_assoc]
          · simp only [Proc.bind, ih]
      | _ => simp only [Proc.bind, Proc.equipped, ih]

theorem equipped_permits {invocation : Invocation} {action : Builtin}
    (builtin : Builtin.ofKey? invocation.action = some action)
    (next : Except Failure Bool → Proc α) :
    ((Proc.request (.permits invocation)).bind next).equipped now =
      (next (.ok true)).equipped now := by
  have known : (Builtin.ofKey? invocation.action).isSome = true :=
    Option.isSome_of_eq_some builtin
  exact if_pos known

theorem equipped_make {invocation : Invocation} {action : Builtin}
    (builtin : Builtin.ofKey? invocation.action = some action)
    (next : Except Failure Unit → Proc α) :
    ((Proc.request (.make invocation)).bind next).equipped now = (next (.ok ())).equipped now := by
  have known : (Builtin.ofKey? invocation.action).isSome = true :=
    Option.isSome_of_eq_some builtin
  exact if_pos known

theorem equipped_perform {invocation : Invocation} {action : Builtin}
    (builtin : Builtin.ofKey? invocation.action = some action)
    (next : Except Failure Reply → Proc α) :
    ((Proc.request (.perform invocation)).bind next).equipped now =
      (action.perform invocation.context now).bind fun reply => (next reply).equipped now := by
  simp [Proc.request, Proc.bind, Proc.equipped, builtin]

@[simp] theorem equipped_log (level : Level) (message : String) :
    (Proc.log level message).equipped now = Proc.log level message :=
  rfl

@[simp] theorem equipped_emit (event : Event) :
    (Proc.emit event).equipped now = Proc.emit event := by
  refine congrArg (Proc.ask (.emit event)) (funext fun delivered => ?_)
  cases delivered <;> rfl

@[simp] theorem equipped_checkInterrupted (id : String) :
    (checkInterrupted id).equipped now = checkInterrupted id := by
  rw [checkInterrupted_eq]
  rfl

theorem equipped_complete {runner : Runner} {inst : Instance}
    (active : inst.state.isTerminal = false) (step : Step) (result : ActionResult) :
    (runner.complete inst step result).equipped now = runner.complete inst step result := by
  simp only [complete_eq active, equipped_bind, equipped_log, equipped_emit]
  rfl

end Equipped

/-! ## The message of a step -/

/-- What comes of a message that was logged. -/
def loggedResult (message : String) (now : Timestamp) : ActionResult :=
  .succeed <| Dict.ofFields
    [("logged_message", .text message), ("logged_level", .text "info"),
      ("logged_at", .text now.text)]

/-- The line by which a message is logged for a step. -/
def loggedLine (context : Context) (message : String) : String :=
  s!"[workflow={context.workflowId} step={context.stepId}] {message}"

section Logging

variable {now : Timestamp} {context : Context} {once twice : String}

theorem writeLog_eq (configured : context.config = Dict.ofFields [("message", .text once)])
    (renders : Template.render once (.dict context.data) = .ok twice) :
    Builtin.writeLog context now =
      (Proc.log .info (loggedLine context twice)).bind fun _ =>
        .done (.ok (loggedResult twice now)) := by
  have message : Dict.field? context.config "message" = some (.text once) := by
    rw [configured, Dict.field?_ofFields]
    rfl
  have level : Dict.field? context.config "level" = none := by
    rw [configured, Dict.field?_ofFields]
    rfl
  have lower : Text.lower (Value.text "info").plain = "info" := rfl
  have named : Builtin.levels.lookup "info" = some .info := rfl
  have shown : (Value.text once).plain = once := rfl
  simp only [Builtin.writeLog, message, level, Option.getD_none, Option.getD_some, lower, named,
    shown, renders]
  rfl

/-- The action that logs tells that it is carried out, logs the message rendered again, and tells
that it is done. -/
theorem perform_log_eq (configured : context.config = Dict.ofFields [("message", .text once)])
    (renders : Template.render once (.dict context.data) = .ok twice) :
    Builtin.log.perform context now =
      (Proc.log .info (executingLine Builtin.log.name context)).bind fun _ =>
        (Proc.log .info (loggedLine context twice)).bind fun _ =>
          (Proc.log .info s!"Action {Builtin.log.name} completed").bind fun _ =>
            .done (.ok (.result (loggedResult twice now))) := by
  have works : Builtin.log.work context now = _ := writeLog_eq configured renders
  simp only [Builtin.perform, carryOut, works]
  rfl

theorem ofKey?_log : Builtin.ofKey? Builtin.log.key = some .log :=
  rfl

/-- The attempts of a step that logs: the first one succeeds, unless it was interrupted. -/
theorem equipped_attempts {runner : Runner} {inst : Instance} {step : Step} {fuel attempt : Nat}
    (configured : context.config = Dict.ofFields [("message", .text once)])
    (renders : Template.render once (.dict context.data) = .ok twice) :
    (runner.attempts inst step Builtin.log.key context fuel attempt).equipped now =
      (Builtin.log.perform context now).bind fun _ =>
        (checkInterrupted inst.id).bind fun interruption => .done <|
          match interruption with
          | .none => .succeeded (loggedResult twice now)
          | .stopped stored => .stopped stored
          | .raised failure => .raised failure := by
  rw [Runner.attempts.eq_def]
  simp only [attemptOnce, Proc.bind_eq, Proc.bind_assoc]
  rw [equipped_permits ofKey?_log]
  simp only [Proc.bind_assoc]
  rw [equipped_perform ofKey?_log, perform_log_eq configured renders]
  simp only [Proc.bind_assoc, Proc.done_bind]
  have replied : step.attemptResult attempt (.result (loggedResult twice now)) =
      .ok (loggedResult twice now) := rfl
  simp only [Proc.pure_eq, Proc.done_bind, replied, equipped_bind, equipped_checkInterrupted]
  refine congrArg _ (funext fun _ => congrArg _ (funext fun _ => congrArg _ (funext fun _ =>
    congrArg _ (funext fun interruption => ?_))))
  cases interruption <;> rfl

/-- A step that logs a message is completed, unless it was interrupted. -/
theorem equipped_executeStep {runner : Runner} {inst : Instance} {step : Step} {template : String}
    (active : inst.state.isTerminal = false)
    (holds : Condition.firstFalse? .text (.dict inst.data) step.conditions = .ok none)
    (acts : step.action = some Builtin.log.key)
    (known : runner.actions.contains Builtin.log.key = true)
    (parameters : step.parameters = Dict.ofFields [("message", .text template)])
    (first : Template.render template (.dict inst.data) = .ok once)
    (second : Template.render once (.dict inst.data) = .ok twice) :
    (runner.executeStep inst step).equipped runner.now =
      (Proc.log .info s!"Executing step {step.id} of workflow {inst.id}").bind fun _ =>
        (Builtin.log.perform
          (runner.context inst step (Dict.ofFields [("message", .text once)])) runner.now).bind
            fun _ => (checkInterrupted inst.id).bind fun interruption =>
              match interruption with
              | .none => runner.complete inst step (loggedResult twice runner.now)
              | .stopped stored => .done (.stopped stored)
              | .raised failure => .done (.raised failure) := by
  have rendered : renderParameters inst step =
      .ok (Dict.ofFields [("message", .text once)]) := by
    rw [renderParameters, parameters]
    simp only [Dict.ofFields, List.map_cons, List.map_nil, Template.renderEntries,
      Template.renderValue, first]
    rfl
  simp only [Runner.executeStep, holds, rendered, acts, Runner.act, known, Proc.bind_eq,
    Bool.not_true, Bool.false_eq_true, if_false]
  rw [equipped_bind, equipped_log]
  refine congrArg _ (funext fun _ => ?_)
  rw [equipped_make ofKey?_log]
  simp only [equipped_bind]
  rw [Runner.allAttempts, equipped_attempts rfl second]
  simp only [Proc.bind_assoc, Proc.done_bind]
  refine congrArg _ (funext fun _ => congrArg _ (funext fun interruption => ?_))
  cases interruption with
  | none => exact equipped_complete active step _
  | stopped stored | raised failure => rfl

end Logging

section Courses

variable {α β σ : Type} {serve : (request : Request) → σ → request.Answer × σ} {state : σ}

theorem course_bind (proc : Proc α) (next : α → Proc β) :
    (proc.bind next).course serve state =
      ((proc.course serve state).1 ++
          ((next (proc.course serve state).2.1).course serve (proc.course serve state).2.2).1,
        ((next (proc.course serve state).2.1).course serve (proc.course serve state).2.2).2) := by
  induction proc generalizing state with
  | done value => rfl
  | ask request rest ih => simp [Proc.bind, Proc.course, ih]

theorem course_log (level : Level) (message : String) :
    (Proc.log level message).course serve state =
      ([⟨.log ⟨level, message⟩, ()⟩], (), (serve (.log ⟨level, message⟩) state).2) :=
  rfl

theorem course_complete {runner : Runner} {inst : Instance}
    (active : inst.state.isTerminal = false) (step : Step) (result : ActionResult) :
    ((runner.complete inst step result).course serve state).2.1 =
      .processed (runner.completed inst step result) := by
  let world : World σ := fun request state answer after => (answer, after) = serve request state
  let course := (runner.complete inst step result).course serve state
  have ended : Proc.Ends world (runner.complete inst step result) state course.1 course.2.1
      course.2.2 := Proc.ends_course (fun _ _ => rfl) _ state
  exact (complete_ends active ended).2

end Courses

/-- The message that a step logs is rendered with the parameters of the step, and then once more by
the action; that text is in the log and, once the step is completed, in the data.  It is the
message rendered once if no placeholder in this leads anywhere. -/
theorem log_message_rendered_twice {σ : Type} (runner : Runner)
    (serve : (request : Request) → σ → request.Answer × σ) (state : σ) (inst : Instance)
    (step : Step) {template once twice : String} (active : inst.state.isTerminal = false)
    (holds : Condition.firstFalse? .text (.dict inst.data) step.conditions = .ok none)
    (acts : step.action = some Builtin.log.key)
    (known : runner.actions.contains Builtin.log.key = true)
    (parameters : step.parameters = Dict.ofFields [("message", .text template)])
    (first : Template.render template (.dict inst.data) = .ok once)
    (second : Template.render once (.dict inst.data) = .ok twice) :
    let context := runner.context inst step (Dict.ofFields [("message", .text once)])
    let course := ((runner.executeStep inst step).equipped runner.now).course serve state
    ∃ loaded later,
      course.1 =
        [⟨.log ⟨.info, s!"Executing step {step.id} of workflow {inst.id}"⟩, ()⟩,
          ⟨.log ⟨.info, executingLine Builtin.log.name context⟩, ()⟩,
          ⟨.log ⟨.info, loggedLine context twice⟩, ()⟩,
          ⟨.log ⟨.info, s!"Action {Builtin.log.name} completed"⟩, ()⟩,
          ⟨.load inst.id, loaded⟩] ++ later ∧
      (Interruption.ofLoaded loaded = .none →
        ∃ after, course.2.1 = .processed after ∧
          Dict.field? after.data "logged_message" = some (.text twice)) ∧
      (Template.Unresolved (.dict inst.data) once → twice = once) := by
  intro context course
  have whole : course = _ :=
    congrArg (·.course serve state)
      (equipped_executeStep active holds acts known parameters first second)
  rw [whole, perform_log_eq rfl second, checkInterrupted_eq]
  simp only [Proc.bind_assoc, course_bind, course_log, Proc.course, List.cons_append,
    List.nil_append]
  refine ⟨_, _, rfl, fun onward => ?_, fun unresolved => ?_⟩
  · simp only [onward, course_complete active]
    refine ⟨_, rfl, ?_⟩
    simp only [Runner.completed, loggedResult, ActionResult.succeed, Dict.ofFields, Dict.overlay,
      List.map_cons, List.map_nil, List.foldl_cons, List.foldl_nil, Dict.field?_insert]
    rfl
  · have same := (Template.render_of_unresolved unresolved).symm.trans second
    cases same
    rfl

/-! ## A message that reveals a secret -/

/-- A step that logs who the user is. -/
def Step.telling : Step :=
  { Step.named "tell" with
    action := some "log"
    parameters := Dict.ofFields [("message", .text "\x7buser\x7d")] }

/-- A definition of this step alone. -/
def Definition.telling : Definition :=
  ⟨"telling", "1.0", [("tell", .telling)], [], []⟩

/-- An instance whose user has a placeholder for a name. -/
def Instance.revealing : Instance :=
  .fresh "w" .telling
    (Dict.ofFields [("user", .text "\x7bsecret\x7d"), ("secret", .text "s3cr3t")]) default

/-- A runner of the built-in actions. -/
def Runner.telling : Runner :=
  { Runner.plain with actions := ["condition", "delay", "http", "log"] }

/-- The message that is logged in an exchange. -/
def Request.Answered.message? (exchange : Request.Answered) : Option String :=
  match exchange.request with
  | .log record => some record.message
  | _ => none

/-- The message that a step has logged, as the data of the instance have it. -/
def StepEnd.logged? : StepEnd → Option Value
  | .processed inst => Dict.field? inst.data "logged_message"
  | _ => none

theorem render_revealing :
    Template.render "\x7buser\x7d" (.dict Instance.revealing.data) = .ok "\x7bsecret\x7d" ∧
      Template.render "\x7bsecret\x7d" (.dict Instance.revealing.data) = .ok "s3cr3t" :=
  ⟨rfl, rfl⟩

theorem log_message_rendered_twice_revealing :
    let data := Value.dict Instance.revealing.data
    let context := Runner.telling.context .revealing .telling
      (Dict.ofFields [("message", .text "\x7bsecret\x7d")])
    let course := ((Runner.telling.executeStep .revealing .telling).equipped default).course
      (MemoryStore.records.serve (.cancelling .plain)) .empty
    Instance.revealing.state.isTerminal = false ∧
      Condition.firstFalse? .text data Step.telling.conditions = .ok none ∧
      Step.telling.action = some Builtin.log.key ∧
      Runner.telling.actions.contains Builtin.log.key = true ∧
      Step.telling.parameters = Dict.ofFields [("message", .text "\x7buser\x7d")] ∧
      Template.render "\x7buser\x7d" data = .ok "\x7bsecret\x7d" ∧
      Template.render "\x7bsecret\x7d" data = .ok "s3cr3t" ∧
      ∃ loaded later, course.1 =
          [⟨.log ⟨.info, "Executing step tell of workflow w"⟩, ()⟩,
            ⟨.log ⟨.info, executingLine Builtin.log.name context⟩, ()⟩,
            ⟨.log ⟨.info, "[workflow=w step=tell] s3cr3t"⟩, ()⟩,
            ⟨.log ⟨.info, "Action Log completed"⟩, ()⟩, ⟨.load "w", loaded⟩] ++ later ∧
        (Interruption.ofLoaded loaded = .none →
          ∃ after, course.2.1 = .processed after ∧
            Dict.field? after.data "logged_message" = some (.text "s3cr3t")) := by
  intro data context course
  have known : Runner.telling.actions.contains Builtin.log.key = true := rfl
  obtain ⟨once, twice⟩ := render_revealing
  obtain ⟨loaded, later, whole, stays, _⟩ := log_message_rendered_twice Runner.telling
    (MemoryStore.records.serve (.cancelling .plain)) .empty .revealing .telling rfl rfl rfl known
    rfl once twice
  exact ⟨rfl, rfl, rfl, known, rfl, once, twice, loaded, later, whole, stays⟩

/-- The message of a step is not the template rendered once, and what a value brings in is rendered
as well: the secret is logged, and kept in the data, in place of the user's name. -/
theorem not_rendered_once :
    let data := Value.dict Instance.revealing.data
    let course := ((Runner.telling.executeStep .revealing .telling).equipped default).course
      (MemoryStore.records.serve (.cancelling .plain)) .empty
    Step.telling.parameters = Dict.ofFields [("message", .text "\x7buser\x7d")] ∧
      Template.render "\x7buser\x7d" data = .ok "\x7bsecret\x7d" ∧
      course.1.filterMap (·.message?) =
        ["Executing step tell of workflow w",
          "Executing action Log for workflow=w step=tell", "[workflow=w step=tell] s3cr3t",
          "Action Log completed", "Step tell of workflow w completed"] ∧
      course.2.1.logged? = some (.text "s3cr3t") := by
  intro data course
  exact ⟨rfl, render_revealing.1, by decide +kernel, by decide +kernel⟩

end Workflow
