import Workflow.Proofs.Arguments

/-!
# What drafts accept

What calls with arguments of the kinds they are declared with make of a draft can be read, but for
one thing: a draft takes a blank action or compensation, which the reader of definitions refuses.
-/

namespace Workflow

namespace Draft

/-! ## Steps that are made for requests -/

section Checks

variable {draft : Draft} {request : StepRequest} {step : DraftStep}

theorem stepOf_checks (asks : draft.stepOf request = .ok step) :
    checkRetryAttempts step.id request.retryAttempts = .ok step.retryAttempts ∧
      Dict.ofValue request.parameters = .ok step.parameters ∧
      (∀ text ∈ step.timeout, checkTimeout step.id request.timeout = .ok text) ∧
      (∃ conditions : List Value, conditions.mapM checkCondition = .ok step.conditions) ∧
      step.action = request.action.given? ∧ step.compensation = request.compensation.given? := by
  simp only [stepOf] at asks
  obtain ⟨id, _, asks⟩ := then_eq_ok.mp asks
  obtain ⟨attempts, few, asks⟩ := then_eq_ok.mp asks
  obtain ⟨parameters, mapping, asks⟩ := then_eq_ok.mp asks
  have mapping := mapError_eq_ok.mp mapping
  -- whether a timeout is asked for or not, the rest is the same
  split at asks
  all_goals
    obtain ⟨timeout, limit, asks⟩ := then_eq_ok.mp asks
    obtain ⟨own, _, asks⟩ := then_eq_ok.mp asks
    obtain ⟨conditions, checks, asks⟩ := then_eq_ok.mp asks
    cases asks
    refine ⟨few, mapping, fun text member => ?_, ⟨_, checks⟩, rfl, rfl⟩
  · cases limit
    cases member
  · obtain ⟨other, form, same⟩ := then_eq_ok.mp limit
    cases same
    cases member
    exact form

theorem checkRetryAttempts_eq_ok {id : String} {value : Value} {attempts : Int}
    (checks : checkRetryAttempts id value = .ok attempts) :
    0 ≤ attempts ∧ attempts ≤ largestRetryAttempts := by
  unfold checkRetryAttempts at checks
  split at checks
  · split at checks
    · next few =>
        cases checks
        exact few
    · cases checks
  · cases checks

theorem checkTimeout_eq_ok {id text : String} {value : Value} (typed : value.IsTimeLimit)
    (checks : checkTimeout id value = .ok text) : isTimeout text = true := by
  unfold checkTimeout at checks
  split at checks
  · split at checks
    · cases checks
    · next positive =>
        split at checks
        · cases checks
        · cases checks
          exact isTimeout_seconds (Int.not_le.mp positive)
  · next given =>
      obtain (⟨_, ⟨⟩⟩ | ⟨_, ⟨⟩⟩) | ⟨_, ⟨⟩, timed⟩ := typed
      simp only at checks
      split at checks
      · next seems =>
          split at checks
          · cases checks
          · split at checks
            · cases checks
              exact timed (seemsTimeout_iff.mp seems)
            · cases checks
      · cases checks
  · cases checks

theorem mapM_checkCondition_filled {values : List Value} {conditions : List String}
    (checks : values.mapM checkCondition = .ok conditions) :
    ∀ condition ∈ conditions, Text.isBlankText condition = false := by
  induction values generalizing conditions with
  | nil =>
      cases checks
      exact List.forall_mem_nil _
  | cons value rest ih =>
      rw [List.mapM_cons] at checks
      obtain ⟨condition, first, checks⟩ := then_eq_ok.mp checks
      obtain ⟨others, later, checks⟩ := then_eq_ok.mp checks
      cases checks
      exact List.forall_mem_cons.mpr ⟨checkCondition_filled first, ih later⟩

theorem given?_typed {value : Value} (typed : value.Optionally Value.IsText) :
    ∃ name : Option String, value.given? = name.map .text := by
  obtain rfl | ⟨text, rfl⟩ := typed
  · exact ⟨none, rfl⟩
  · exact ⟨some text, rfl⟩

/-- The step that is made for a request of the right kinds is of the right kinds. -/
theorem stepOf_typed (typed : request.Typed) (asks : draft.stepOf request = .ok step) :
    step.Typed := by
  obtain ⟨_, _, identifier, _⟩ := stepOf_eq_ok asks
  obtain ⟨attempts, mapping, timeouts, ⟨_, conditions⟩, action, compensation⟩ :=
    stepOf_checks asks
  obtain ⟨parameters, whole, keyed⟩ := ofValue_typed typed.parameters
  cases whole.symm.trans mapping
  refine ⟨identifier, checkRetryAttempts_eq_ok attempts, ?_, keyed, fun text member => ?_,
    mapM_checkCondition_filled conditions, ?_⟩
  · rw [action]
    exact given?_typed typed.action
  · have checks := timeouts text member
    obtain null | limit := typed.timeout
    · rw [null] at checks
      cases checks
    · exact checkTimeout_eq_ok limit checks
  · rw [compensation]
    exact given?_typed typed.compensation

theorem given?_filled (value : Value) :
    (∀ own ∈ value.given?, own.isBlank = false) ↔ value.isBlank = false := by
  cases null : value.isNull with
  | false => simp [Value.given?, null]
  | true =>
      unfold Value.isNull at null
      split at null
      · simp [Value.given?, Value.isNull, Value.isBlank]
      · cases null

/-- What a step refers to is blank if what was asked for is. -/
theorem refers_iff (asks : draft.stepOf request = .ok step) : step.Refers ↔ request.Refers := by
  obtain ⟨_, _, _, _, action, compensation⟩ := stepOf_checks asks
  have given := given?_filled
  constructor
  · intro refers
    exact ⟨(given _).mp (action ▸ refers.action), (given _).mp (compensation ▸ refers.compensation)⟩
  · intro refers
    refine ⟨?_, ?_⟩
    · rw [action]
      exact (given _).mpr refers.action
    · rw [compensation]
      exact (given _).mpr refers.compensation

end Checks

end Draft

/-- Unless a call was refused, neither the action nor the compensation it asked for is blank. -/
def MadeCall.Refers (one : MadeCall) : Prop :=
  one.refusal = none → ∀ request ∈ one.call.request?, request.Refers

namespace Draft

/-- What calls make of a draft: one of the right kinds, with steps for what was asked for and
transitions between steps besides those that were asked for. -/
structure Grows (draft : Draft) (made : List MadeCall) (last : Draft) : Prop where
  typed : last.Typed
  refusals : ∀ one ∈ made, ∀ failure, one.refusal = some failure →
    Refuses one.call.IsBrief failure
  steps : ∃ added, last.steps = draft.steps ++ added ∧
    ((∀ step ∈ added, step.Refers) ↔ ∀ one ∈ made, one.Refers)
  transitions : ∀ link ∈ last.transitions, link ∈ draft.transitions ∨ link.Joins last.stepIds ∨
    ∃ one ∈ made, link ∈ one.call.asked
  version : (∀ one ∈ made, ∀ version, one.call ≠ .setVersion version) →
    last.version = draft.version

section Growing

variable {draft middle last : Draft} {made others : List MadeCall}

theorem Grows.refl (typed : draft.Typed) : draft.Grows [] draft where
  typed := typed
  refusals := List.forall_mem_nil _
  steps := ⟨[], by simp, by simp⟩
  transitions := fun _ => .inl
  version := fun _ => rfl

theorem Grows.joins (grows : draft.Grows made last) {link : DraftTransition}
    (joins : link.Joins draft.stepIds) : link.Joins last.stepIds := by
  obtain ⟨added, steps, _⟩ := grows.steps
  have kept : ∀ id ∈ draft.stepIds, id ∈ last.stepIds := by
    intro id member
    rw [stepIds, steps, List.map_append]
    exact List.mem_append_left _ member
  obtain ⟨⟨source, leaves, sources⟩, target, leads, targets⟩ := joins
  exact ⟨⟨source, kept source leaves, sources⟩, target, kept target leads, targets⟩

theorem Grows.trans (first : draft.Grows made middle) (second : middle.Grows others last) :
    draft.Grows (made ++ others) last where
  typed := second.typed
  refusals := List.forall_mem_append.mpr ⟨first.refusals, second.refusals⟩
  steps := by
    obtain ⟨added, steps, refers⟩ := first.steps
    obtain ⟨more, lastSteps, refersMore⟩ := second.steps
    refine ⟨added ++ more, by rw [lastSteps, steps, List.append_assoc], ?_⟩
    rw [List.forall_mem_append, List.forall_mem_append, refers, refersMore]
  transitions := by
    intro link member
    obtain before | joins | ⟨one, later, asked⟩ := second.transitions link member
    · obtain old | joins | ⟨one, earlier, asked⟩ := first.transitions link before
      · exact .inl old
      · exact .inr (.inl (second.joins joins))
      · exact .inr (.inr ⟨one, List.mem_append_left _ earlier, asked⟩)
    · exact .inr (.inl joins)
    · exact .inr (.inr ⟨one, List.mem_append_right _ later, asked⟩)
  version := by
    intro unset
    obtain ⟨before, after⟩ := List.forall_mem_append.mp unset
    exact (second.version after).trans (first.version before)

/-- The conditions of blocks do not count for what a draft is made of. -/
theorem Typed.within (typed : draft.Typed) (conditions : List String) :
    Typed { draft with conditions } :=
  ⟨typed.name, typed.version, typed.metadata, typed.steps, typed.distinct, typed.transitions⟩

theorem Grows.leave {condition : String} (grows : (draft.enter condition).Grows made last) :
    draft.Grows made last.leave :=
  ⟨grows.typed.within _, grows.refusals, grows.steps, grows.transitions, grows.version⟩

theorem mem_links {id : String} {link : Bool} {given : DraftTransition}
    (member : given ∈ if link then draft.linkTo id else []) :
    ∃ previous ∈ draft.stepIds, given = ⟨.text previous, .text id, none⟩ := by
  split at member
  · obtain ⟨previous, last, rfl⟩ := Option.map_eq_some_iff.mp (Option.mem_toList.mp member)
    exact ⟨previous.id, List.mem_map_of_mem (List.mem_of_getLast? last), rfl⟩
  · cases member

theorem typed_withStep {step : DraftStep} {link : Bool} (typed : draft.Typed) (first : step.Typed)
    (fresh : step.id ∉ draft.stepIds) : (draft.withStep step link).Typed where
  name := typed.name
  version := typed.version
  metadata := typed.metadata
  steps := List.forall_mem_append.mpr ⟨typed.steps, List.forall_mem_singleton.mpr first⟩
  distinct := by
    rw [stepIds_withStep, ← List.concat_eq_append]
    exact typed.distinct.concat fresh
  transitions := by
    refine List.forall_mem_append.mpr ⟨typed.transitions, fun given member => ?_⟩
    obtain ⟨previous, _, rfl⟩ := mem_links member
    exact ⟨⟨_, rfl⟩, ⟨_, rfl⟩, nofun⟩

section OneCall

variable {call : BuilderCall} {enclosing : List String} {refusal : Option Failure}
variable {before next : Draft}

/-- A call that adds nothing. -/
theorem grows_of_notes (adds : call.adds = false) (typed : next.Typed)
    (refused : ∀ failure, refusal = some failure → Refuses call.IsBrief failure)
    (steps : next.steps = draft.steps) (transitions : next.transitions = draft.transitions)
    (version : (∀ version, call ≠ .setVersion version) → next.version = draft.version) :
    draft.Grows [⟨enclosing, call, refusal, before, next⟩] next where
  typed := typed
  refusals := List.forall_mem_singleton.mpr refused
  steps := by
    refine ⟨[], by simp [steps], ?_⟩
    simp [MadeCall.Refers, (BuilderCall.asks_nothing adds).1]
  transitions := fun link member => .inl (transitions ▸ member)
  version := fun unset => version (unset _ (List.mem_singleton_self _))

/-- A call that adds a step or a transition, unless it is refused. -/
theorem Turns.grows (turns : draft.Turns call refusal next) (adds : call.adds = true)
    (typed : call.Typed) (typedDraft : draft.Typed)
    (refused : ∀ failure, refusal = some failure → Refuses call.IsBrief failure) :
    draft.Grows [⟨enclosing, call, refusal, draft, next⟩] next := by
  cases turns with
  | refused _ failure =>
      refine ⟨typedDraft, List.forall_mem_singleton.mpr refused, ⟨[], by simp, ?_⟩,
        fun _ => .inl, fun _ => rfl⟩
      simp [MadeCall.Refers]
  | @step _ request step asks own made =>
      obtain ⟨_, fresh, _⟩ := stepOf_eq_ok made
      have asked : StepRequest.Typed { request with id := .text step.id } :=
        { typed.request asks with id := .inr ⟨step.id, rfl⟩ }
      have first := stepOf_typed asked made
      refine ⟨typed_withStep typedDraft first fresh, List.forall_mem_singleton.mpr refused,
        ⟨[step], rfl, ?_⟩, fun link member => ?_, fun _ => rfl⟩
      · have same := refers_iff made
        have refers : step.Refers ↔ request.Refers :=
          ⟨fun holds => ⟨(same.mp holds).action, (same.mp holds).compensation⟩,
            fun holds => same.mpr ⟨holds.action, holds.compensation⟩⟩
        simp [MadeCall.Refers, asks, refers]
      · refine (List.mem_append.mp member).imp_right fun added => .inl ?_
        obtain ⟨previous, before, rfl⟩ := mem_links added
        rw [stepIds_withStep]
        exact ⟨⟨previous, List.mem_append_left _ before, rfl⟩, step.id, by simp, rfl⟩
  | @transition source target value condition same filled =>
      refine ⟨{ typedDraft with transitions := ?_ }, List.forall_mem_singleton.mpr refused,
        ⟨[], by simp, ?_⟩, fun link member => ?_, fun _ => rfl⟩
      · refine List.forall_mem_append.mpr ⟨typedDraft.transitions, ?_⟩
        exact List.forall_mem_singleton.mpr ⟨typed.1, typed.2.1, filled⟩
      · simp [MadeCall.Refers, BuilderCall.request?]
      · refine (List.mem_append.mp member).imp_right fun added => .inr ?_
        refine ⟨_, List.mem_singleton_self _, ?_⟩
        rwa [BuilderCall.asked, same]
  | notes nothing =>
      rw [adds] at nothing
      cases nothing

/-- What a call that makes no other calls makes of a draft. -/
theorem call_grows (single : call.isSingle = true) (typed : call.Typed) (typedDraft : draft.Typed) :
    draft.Grows [draft.make enclosing call] (draft.make enclosing call).after := by
  have refused : ∀ failure, refusal? (draft.call call).1 = some failure →
      Refuses call.IsBrief failure := fun _ => call_refuses typedDraft single typed
  cases adds : call.adds with
  | true => exact (call_turns draft single).grows adds typed typedDraft refused
  | false =>
      cases call with
      | describe | build =>
          exact grows_of_notes adds { typedDraft with } refused rfl rfl fun _ => rfl
      | setVersion version =>
          refine grows_of_notes adds { typedDraft with version := typed } refused rfl rfl ?_
          exact fun unset => absurd rfl (unset version)
      | addMetadata metadata =>
          obtain ⟨entries, rfl, keyed⟩ := typed
          have metadata := typedDraft.metadata.overlay keyed.1
          exact grows_of_notes adds { typedDraft with metadata } refused rfl rfl fun _ => rfl
      | block condition calls =>
          cases calls with
          | cons => cases single
          | nil =>
              rw [make, call_block_nil]
              exact grows_of_notes adds typedDraft refused rfl rfl fun _ => rfl
      | addStep | append | addTransition | log | delay | http | condition => cases adds

end OneCall

/-- What the calls of a course make of a draft. -/
theorem Makes.grows {enclosing : List String} (makes : Makes enclosing draft made last)
    (typed : ∀ one ∈ made, one.call.Typed) (typedDraft : draft.Typed) :
    draft.Grows made last := by
  induction makes with
  | stop => exact .refl typedDraft
  | @call enclosing draft last made call single rest ih =>
      obtain ⟨first, later⟩ := List.forall_mem_cons.mp typed
      have grows : draft.Grows [draft.make enclosing call] (draft.make enclosing call).after :=
        call_grows single first typedDraft
      exact grows.trans (ih later grows.typed)
  | @block enclosing draft inner last inside made condition text checked callback rest within ih =>
      obtain ⟨first, later⟩ := List.forall_mem_append.mp typed
      obtain ⟨_, later⟩ := List.forall_mem_cons.mp later
      have entered : (draft.enter text).Typed := typedDraft.within _
      have grows : draft.Grows inside inner.leave := (within first entered).leave
      have note : inner.leave.Grows [⟨enclosing, .block condition [], none, draft, inner.leave⟩]
          inner.leave := grows_of_notes rfl grows.typed (fun _ => nofun) rfl rfl fun _ => rfl
      rw [List.append_cons]
      exact (grows.trans note).trans (ih later note.typed)

end Growing

theorem begun_of_named {name : Value} {start : Draft} (begins : named name = .ok start) :
    ∃ text, isIdentifier text = true ∧ start = begun text := by
  unfold named at begins
  split at begins
  · split at begins
    · cases begins
    · split at begins
      · cases begins
      · next text _ identifier =>
          cases begins
          exact ⟨text, by simpa using identifier, rfl⟩
  · cases begins

theorem typed_begun {text : String} (identifier : isIdentifier text = true) :
    (begun text).Typed where
  name := identifier
  version := ⟨"1.0", rfl⟩
  metadata := by simp [begun, Dict.KeyedByText]
  steps := List.forall_mem_nil _
  distinct := List.nodup_nil
  transitions := List.forall_mem_nil _

/-- Calls of the right kinds are refused with errors in definitions, unless a number of theirs has
more digits than are read.  If none of them is refused and none sets the version, and there are
steps and all transitions that were asked for lead from a step to a step, the draft is built exactly
if no action and no compensation that was asked for is blank; otherwise to build it is an error in
the definition. -/
theorem built_unless_blank {name : Value} {start last : Draft} {made : List MadeCall}
    (begins : named name = .ok start) (makes : Makes [] start made last)
    (typed : ∀ one ∈ made, one.call.Typed) :
    (∀ one ∈ made, ∀ failure, one.refusal = some failure →
      (∃ error, failure = .definition error) ∨
        ¬ one.call.IsBrief ∧ failure.kind = "ValueError") ∧
    ((∀ one ∈ made, one.refusal = none) →
      (∀ one ∈ made, ∀ version, one.call ≠ .setVersion version) → last.steps ≠ [] →
      (∀ one ∈ made, ∀ link ∈ one.call.asked, link.Joins last.stepIds) →
      ((∀ one ∈ made, ∀ request ∈ one.call.request?, request.Refers) ∧
          ∃ definition, last.build = .ok definition) ∨
        (¬ (∀ one ∈ made, ∀ request ∈ one.call.request?, request.Refers) ∧
          ∃ error, last.build = .error (.definition error))) := by
  obtain ⟨text, identifier, rfl⟩ := begun_of_named begins
  have grows := makes.grows typed (typed_begun identifier)
  refine ⟨grows.refusals, fun taken unset nonempty joins => ?_⟩
  have joined : ∀ link ∈ last.transitions, link.Joins last.stepIds := by
    intro link member
    obtain before | between | ⟨one, among, asked⟩ := grows.transitions link member
    · cases before
    · exact between
    · exact joins one among link asked
  have version : last.version.isBlank = false := by
    rw [grows.version unset]
    show Text.isBlankText "1.0" = false
    decide
  obtain ⟨added, steps, refers⟩ := grows.steps
  have steps : last.steps = added := steps
  have complete : last.Complete ↔ ∀ one ∈ made, ∀ request ∈ one.call.request?, request.Refers := by
    have accepted : (∀ one ∈ made, one.Refers) ↔
        ∀ one ∈ made, ∀ request ∈ one.call.request?, request.Refers :=
      forall₂_congr fun one member => by simp [MadeCall.Refers, taken one member]
    rw [← accepted, ← refers, ← steps]
    exact ⟨fun complete => complete.refers, fun refers => ⟨nonempty, version, refers, joined⟩⟩
  rw [← complete]
  exact grows.typed.build_cases

/-- Calls that are not refused, one of them in a block. -/
theorem built_unless_blank_inside :
    let request (id : String) : StepRequest :=
      ⟨.text id, .text "act", .null, .text "5m", .int 3, .null, .null, true⟩
    let start := begun "order"
    let first := start.make [] (.addStep (request "pack"))
    let second := (first.after.enter "urgent").make ["urgent"] (.append (request "ship"))
    let block : MadeCall :=
      ⟨[], .block (.text "urgent") [], none, first.after, second.after.leave⟩
    let third := second.after.leave.make [] (.addTransition (.text "ship") (.text "pack") .null)
    let made := [first, second, block, third]
    named (.text "order") = .ok start ∧ Makes [] start made third.after ∧
      (∀ one ∈ made, one.call.Typed) ∧ (∀ one ∈ made, one.refusal = none) ∧
      (∀ one ∈ made, ∀ request ∈ one.call.request?, request.Refers) ∧
      ∃ definition, third.after.build = .ok definition := by
  intro request start first second block third made
  have begins : named (.text "order") = .ok start := rfl
  have left : Makes [] first.after ([second] ++ block :: [third]) third.after :=
    .block rfl (.call _ rfl (.stop _ _)) (.call _ rfl (.stop _ _))
  have makes : Makes [] start made third.after := .call _ rfl left
  have asked (id : String) : (request id).Typed :=
    ⟨.inr ⟨id, rfl⟩, .inr ⟨"act", rfl⟩, .inl rfl, .inr (.inr ⟨"5m", rfl, fun _ => rfl⟩),
      .inl ⟨3, rfl⟩, .inl rfl, .inl rfl⟩
  have typed : ∀ one ∈ made, one.call.Typed := by
    simp only [made, List.forall_mem_cons]
    exact ⟨asked "pack", asked "ship", ⟨"urgent", rfl⟩, ⟨⟨"ship", rfl⟩, ⟨"pack", rfl⟩, .inl rfl⟩,
      List.forall_mem_nil _⟩
  have taken : ∀ one ∈ made, one.refusal = none := by
    simp only [made, List.forall_mem_cons]
    exact ⟨rfl, rfl, rfl, rfl, List.forall_mem_nil _⟩
  have unset : ∀ one ∈ made, ∀ version, one.call ≠ .setVersion version := by
    simp only [made, List.forall_mem_cons]
    exact ⟨nofun, nofun, nofun, nofun, List.forall_mem_nil _⟩
  have joins : ∀ one ∈ made, ∀ link ∈ one.call.asked, link.Joins third.after.stepIds := by
    have ids : third.after.stepIds = ["pack", "ship"] := rfl
    simp only [made, List.forall_mem_cons, ids]
    refine ⟨nofun, nofun, nofun, ?_, List.forall_mem_nil _⟩
    intro link member
    rw [List.mem_singleton.mp member]
    exact ⟨⟨"ship", by decide, rfl⟩, "pack", by decide, rfl⟩
  have refers : ∀ one ∈ made, ∀ request ∈ one.call.request?, request.Refers := by
    simp only [made, List.forall_mem_cons]
    refine ⟨?_, ?_, nofun, nofun, List.forall_mem_nil _⟩
    · rintro _ ⟨⟩
      exact ⟨rfl, rfl⟩
    · rintro _ ⟨⟩
      exact ⟨rfl, rfl⟩
  obtain ⟨_, built⟩ | ⟨blank, _⟩ :=
    (built_unless_blank begins makes typed).2 taken unset nofun joins
  · exact ⟨begins, makes, typed, taken, refers, built⟩
  · exact absurd refers blank

/-- A step with an empty action is accepted, and the draft is not built. -/
theorem not_always_built :
    let calls : List BuilderCall := [.addStep (.ofAction (.text "pack") (.text "") .null)]
    let added := (begun "order").callAll calls
    named (.text "order") = .ok (begun "order") ∧ added.1 = .ok () ∧ added.2.steps ≠ [] ∧
      added.2.transitions = [] ∧
      added.2.build = .error (.definition (.of
        (.invalidStep "pack" "action must be a non-empty string" "action")
        (.dict added.2.toDict))) := by
  refine ⟨rfl, rfl, nofun, rfl, ?_⟩
  decide

end Draft

end Workflow
