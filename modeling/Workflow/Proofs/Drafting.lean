import Workflow.Proofs.Naming

/-!
# Drafts that are worked on

Whoever builds a draft makes calls, one after the other, and so does the callback of a block.  A
call may be refused, and then its maker may stop there or go on.  However it goes, every call leaves
the conditions of the blocks around it as they were, and a call that is refused leaves no trace in
the document.  The steps are those of the calls that were not refused, each with the conditions of
the blocks that it was added in before its own; their ids are distinct, and every one that is linked
has one transition from the step before it.
-/

namespace Workflow

/-! ## Calls that were made -/

namespace BuilderCall

/-- Whether a call makes no other calls. -/
def isSingle : BuilderCall → Bool
  | .block _ calls => calls.isEmpty
  | _ => true

/-- Whether a call is to add a step or a transition. -/
def adds : BuilderCall → Bool
  | .addStep _ | .append _ | .addTransition _ _ _ | .log _ _ _ | .delay _ _ _ _ | .http _ _ _ _ _
  | .condition _ _ _ _ => true
  | .describe _ | .setVersion _ | .addMetadata _ | .block _ _ | .build => false

/-- The request for a step that a call is short for. -/
def request? : BuilderCall → Option StepRequest
  | .addStep request | .append request => some request
  | .log message level id =>
    some (.ofAction id (.text "log") (.ofFields [("message", message), ("level", level)]))
  | .delay seconds minutes hours id =>
    (Duration.total seconds minutes hours).toOption.map fun total =>
      .ofAction id (.text "delay") (.ofFields [("seconds", total)])
  | .http url method data headers request =>
    method.text?.map fun method =>
      let parameters := [("url", url), ("method", .text (Text.upper method))] ++
        (if data.truthy then [("data", data)] else []) ++
        (if headers.truthy then [("headers", headers)] else [])
      { request with action := .text "http", parameters := .ofFields parameters }
  | .condition expression onTrue onFalse id =>
    let parameters := [("condition", expression)] ++
      (onTrue.given?.map fun value => ("on_true", value)).toList ++
      (onFalse.given?.map fun value => ("on_false", value)).toList
    some (.ofAction id (.text "condition") (.ofFields parameters))
  | .describe _ | .setVersion _ | .addMetadata _ | .addTransition _ _ _ | .block _ _
  | .build => none

/-- The transition that a call asks for. -/
def asked : BuilderCall → List DraftTransition
  | .addTransition source target guard => [⟨source, target, guard.text?⟩]
  | _ => []

/-- A call adds the step that it is short for. -/
theorem additions_eq {call : BuilderCall} {request : StepRequest}
    (asks : call.request? = some request) (enclosing : List Value) :
    call.additions enclosing = [⟨request.id, request.action, enclosing ++ request.items⟩] := by
  have plain (id action parameters : Value) :
      (StepRequest.ofAction id action parameters).items = [] := rfl
  cases call with
  | addStep | append =>
      cases asks
      rfl
  | log | condition =>
      cases asks
      rw [plain, List.append_nil]
      rfl
  | delay =>
      obtain ⟨total, _, rfl⟩ := Option.map_eq_some_iff.mp asks
      rw [plain, List.append_nil]
      rfl
  | http =>
      obtain ⟨method, _, rfl⟩ := Option.map_eq_some_iff.mp asks
      rfl
  | describe | setVersion | addMetadata | addTransition | block | build => cases asks

theorem asked_eq_nil {call : BuilderCall} {request : StepRequest}
    (asks : call.request? = some request) : call.asked = [] := by
  cases call with
  | addTransition => cases asks
  | _ => rfl

/-- Nothing is asked for by a call that adds nothing. -/
theorem asks_nothing {call : BuilderCall} (adds : call.adds = false) :
    call.request? = none ∧ call.asked = [] := by
  cases call with
  | addStep | append | addTransition | log | delay | http | condition => cases adds
  | describe | setVersion | addMetadata | block | build => exact ⟨rfl, rfl⟩

theorem additions_eq_nil {call : BuilderCall} (single : call.isSingle = true)
    (adds : call.adds = false) (enclosing : List Value) : call.additions enclosing = [] := by
  cases call with
  | block condition calls =>
      cases calls with
      | nil => rfl
      | cons => cases single
  | addStep | append | addTransition | log | delay | http | condition => cases adds
  | describe | setVersion | addMetadata | build => rfl

end BuilderCall

/-- What a call is refused with. -/
def refusal? {α : Type} : Except Failure α → Option Failure
  | .ok _ => none
  | .error failure => some failure

/-- A call that was made inside of blocks with the conditions `enclosing`, what it was refused with,
and the draft before it and after it.  The calls of a block's callback are noted on their own. -/
structure MadeCall where
  enclosing : List String
  call : BuilderCall
  refusal : Option Failure
  before : Draft
  after : Draft

namespace Draft

/-- A call that is made on a draft. -/
def make (draft : Draft) (enclosing : List String) (call : BuilderCall) : MadeCall :=
  ⟨enclosing, call, refusal? (draft.call call).1, draft, (draft.call call).2⟩

/-- The draft in a block with a condition. -/
def enter (draft : Draft) (condition : String) : Draft :=
  { draft with conditions := draft.conditions ++ [condition] }

/-- The draft when a block is left. -/
def leave (draft : Draft) : Draft :=
  { draft with conditions := draft.conditions.dropLast }

/-- Calls are made on a draft one after the other, inside of blocks with the conditions `enclosing`.
Their maker may stop after any of them or go on, also when one was refused.  The callback of a block
makes calls in the same way; then the block is left, whether the callback fails or not. -/
inductive Makes : List String → Draft → List MadeCall → Draft → Prop where
  | stop (enclosing : List String) (draft : Draft) : Makes enclosing draft [] draft
  | call {enclosing : List String} {draft last : Draft} {made : List MadeCall}
      (call : BuilderCall) (single : call.isSingle = true)
      (rest : Makes enclosing (draft.make enclosing call).after made last) :
      Makes enclosing draft (draft.make enclosing call :: made) last
  | block {enclosing : List String} {draft inner last : Draft} {inside made : List MadeCall}
      {condition : Value} {text : String} (checked : checkCondition condition = .ok text)
      (callback : Makes (enclosing ++ [text]) (draft.enter text) inside inner)
      (rest : Makes enclosing inner.leave made last) :
      Makes enclosing draft
        (inside ++ ⟨enclosing, .block condition [], none, draft, inner.leave⟩ :: made) last

theorem Makes.append {enclosing : List String} {draft middle last : Draft}
    {made others : List MadeCall} (first : Makes enclosing draft made middle)
    (second : Makes enclosing middle others last) :
    Makes enclosing draft (made ++ others) last := by
  induction first with
  | stop => exact second
  | call call single _ ih => exact .call call single (ih second)
  | block checked callback _ _ ih =>
      rw [List.append_assoc, List.cons_append]
      exact .block checked callback (ih second)

theorem refusal?_map {α β : Type} (outcome : Except Failure α) (f : α → β) :
    refusal? (outcome.map f) = refusal? outcome := by
  cases outcome <;> rfl

mutual

/-- A call that is given as data, with the calls of its blocks, is made so.  It fails with what the
first refused call is refused with. -/
theorem makes_call (enclosing : List String) (draft : Draft) (call : BuilderCall) :
    ∃ made, Makes enclosing draft made (draft.call call).2 ∧
      refusal? (draft.call call).1 = made.findSome? (·.refusal) := by
  by_cases single : call.isSingle = true
  · refine ⟨_, .call call single (.stop enclosing _), ?_⟩
    simp [make]
  · cases call with
    | block condition calls =>
        cases checked : checkCondition condition with
        | error failure =>
            -- the calls inside are not made
            have refused (calls : List BuilderCall) :
                draft.call (.block condition calls) = (.error failure, draft) := by
              simp [Draft.call, checked]
            have rest : Makes enclosing (draft.make enclosing (.block condition [])).after []
                draft := by
              rw [make, refused]
              exact .stop enclosing draft
            rw [refused calls]
            refine ⟨_, .call (.block condition []) rfl rest, ?_⟩
            simp [make, refused, refusal?]
        | ok text =>
            obtain ⟨inside, callback, outcome⟩ :=
              makes_callAll (enclosing ++ [text]) (draft.enter text) calls
            have made : draft.call (.block condition calls) =
                (((draft.enter text).callAll calls).1.map fun _ => none,
                  ((draft.enter text).callAll calls).2.leave) := by
              simp only [Draft.call, checked]
              rfl
            rw [made]
            refine ⟨_, .block checked callback (.stop enclosing _), ?_⟩
            rw [refusal?_map, outcome, List.findSome?_append]
            simp
    | _ => exact absurd rfl single

/-- Calls that are given as data are made one after the other, up to one that is refused. -/
theorem makes_callAll (enclosing : List String) (draft : Draft) (calls : List BuilderCall) :
    ∃ made, Makes enclosing draft made (draft.callAll calls).2 ∧
      refusal? (draft.callAll calls).1 = made.findSome? (·.refusal) := by
  cases calls with
  | nil => exact ⟨[], .stop enclosing draft, rfl⟩
  | cons call rest =>
      obtain ⟨made, makes, outcome⟩ := makes_call enclosing draft call
      unfold Draft.callAll
      split
      · next refused =>
          rw [refused] at makes outcome
          exact ⟨made, makes, outcome⟩
      · next given middle called =>
          rw [called] at makes outcome
          obtain ⟨others, makesRest, outcomeRest⟩ := makes_callAll enclosing middle rest
          refine ⟨made ++ others, makes.append makesRest, ?_⟩
          rw [List.findSome?_append, ← outcome]
          exact outcomeRest

end

/-! ## What one call does -/

/-- A draft with a step more, which follows the last one if it is to. -/
def withStep (draft : Draft) (step : DraftStep) (link : Bool) : Draft :=
  { draft with
    steps := draft.steps ++ [step]
    transitions := draft.transitions ++ if link then draft.linkTo step.id else [] }

theorem stepIds_withStep (draft : Draft) (step : DraftStep) (link : Bool) :
    (draft.withStep step link).stepIds = draft.stepIds ++ [step.id] :=
  List.map_append

/-- What a call that makes no other calls does to a draft, and what it is refused with. -/
inductive Turns (draft : Draft) : BuilderCall → Option Failure → Draft → Prop where
  | refused (call : BuilderCall) (failure : Failure) : Turns draft call (some failure) draft
  | step {call : BuilderCall} {request : StepRequest} {step : DraftStep}
      (asks : call.request? = some request)
      (own : request.id.truthy = true → request.id = .text step.id)
      (made : draft.stepOf { request with id := .text step.id } = .ok step) :
      Turns draft call none (draft.withStep step request.link)
  | transition {source target value : Value} {condition : Option String}
      (same : value.text? = condition)
      (filled : ∀ text ∈ condition, Text.isBlankText text = false) :
      Turns draft (.addTransition source target value) none
        { draft with transitions := draft.transitions ++ [⟨source, target, condition⟩] }
  | notes {call : BuilderCall} {refusal : Option Failure} {next : Draft}
      (adds : call.adds = false) (steps : next.steps = draft.steps)
      (transitions : next.transitions = draft.transitions)
      (conditions : next.conditions = draft.conditions) : Turns draft call refusal next

section Turning

variable {draft next : Draft} {call : BuilderCall} {request : StepRequest}

theorem settle_turns {changed : Except Failure Draft}
    (changes : ∀ next, changed = .ok next → draft.Turns call none next) :
    draft.Turns call (refusal? (draft.settle changed).1) (draft.settle changed).2 := by
  cases changed with
  | error failure => exact .refused call failure
  | ok next => exact changes next rfl

theorem addStep_turns (asks : call.request? = some request)
    (adds : draft.addStep request = .ok next) : draft.Turns call none next := by
  obtain ⟨step, made, adds⟩ := then_eq_ok.mp adds
  have same := (stepOf_eq_ok made).1
  cases adds
  refine .step asks (fun _ => same) ?_
  rw [← same]
  exact made

theorem append_turns (asks : call.request? = some request)
    (adds : draft.append request = .ok next) : draft.Turns call none next := by
  unfold Draft.append at adds
  split at adds
  · exact addStep_turns asks adds
  · next untruthy =>
      obtain ⟨step, made, adds⟩ := then_eq_ok.mp adds
      have same : Value.text draft.freshId = .text step.id := (stepOf_eq_ok made).1
      have asked : draft.stepOf { request with id := .text step.id } = .ok step := by
        rw [← same]
        exact made
      cases adds
      exact @Turns.step draft call request step asks (fun truthy => absurd truthy untruthy) asked

theorem checkCondition_filled {value : Value} {condition : String}
    (checks : checkCondition value = .ok condition) : Text.isBlankText condition = false := by
  cases checkCondition_eq_ok checks
  simp only [checkCondition] at checks
  split at checks
  · cases checks
  · next filled => simpa using filled

theorem addTransition_turns {source target value : Value}
    (adds : draft.addTransition source target value = .ok next) :
    draft.Turns (.addTransition source target value) none next := by
  simp only [addTransition] at adds
  split at adds
  · cases adds
    exact .transition rfl (by simp)
  · obtain ⟨_, checked, adds⟩ := then_eq_ok.mp adds
    obtain ⟨condition, checks, same⟩ := then_eq_ok.mp checked
    cases same
    cases adds
    cases checkCondition_eq_ok checks
    exact .transition rfl (by simpa using checkCondition_filled checks)

theorem call_block_nil (draft : Draft) (condition : Value) :
    (draft.call (.block condition [])).2 = draft := by
  unfold Draft.call
  split
  · rfl
  · simp [callAll]

/-- A call that makes no other calls is refused, or it adds a step or a transition, or it adds
neither. -/
theorem call_turns (draft : Draft) {call : BuilderCall} (single : call.isSingle = true) :
    draft.Turns call (refusal? (draft.call call).1) (draft.call call).2 := by
  cases call with
  | describe | setVersion | addMetadata | build => exact .notes rfl rfl rfl rfl
  | block condition calls =>
      cases calls with
      | cons => cases single
      | nil =>
          rw [call_block_nil]
          exact .notes rfl rfl rfl rfl
  | addStep => exact settle_turns fun _ adds => addStep_turns rfl adds
  | append | log => exact settle_turns fun _ adds => append_turns rfl adds
  | addTransition => exact settle_turns fun _ adds => addTransition_turns adds
  | delay seconds minutes hours id =>
      refine settle_turns fun next adds => ?_
      obtain ⟨total, sums, adds⟩ := then_eq_ok.mp adds
      obtain ⟨spent, _, adds⟩ := then_eq_ok.mp adds
      have sums := mapError_eq_ok.mp sums
      cases spent with
      | true => cases adds
      | false =>
          refine append_turns ?_ adds
          simp [BuilderCall.request?, sums, Except.toOption]
  | http url method data headers request =>
      refine settle_turns fun next adds => ?_
      unfold addHttp at adds
      split at adds
      · exact append_turns rfl adds
      · cases adds
  | condition expression onTrue onFalse id =>
      refine settle_turns fun next adds => ?_
      obtain ⟨text, checks, appends⟩ := then_eq_ok.mp adds
      cases checkCondition_eq_ok checks
      exact append_turns rfl appends

end Turning

end Draft

/-! ## What the calls of a course leave -/

namespace MadeCall

/-- The steps that a call added. -/
def additions (one : MadeCall) : List Addition :=
  if one.refusal.isNone then one.call.additions (one.enclosing.map .text) else []

/-- The transition to the step that a call added from the step before it, if the step is linked and
there is one before it. -/
def links (one : MadeCall) : List DraftTransition :=
  match one.call.request?, one.before.steps.getLast?, one.after.steps.getLast? with
  | some request, some previous, some added =>
    if request.link then [⟨.text previous.id, .text added.id, none⟩] else []
  | _, _, _ => []

/-- The transitions that a call added: the one it asked for, or the one that links its step. -/
def transitions (one : MadeCall) : List DraftTransition :=
  if one.refusal.isNone then one.call.asked ++ one.links else []

/-- A call leaves the conditions of the blocks around it as they were, keeps the ids of the steps
distinct, and leaves no trace in the document if it was to add something and was refused. -/
structure Sound (one : MadeCall) : Prop where
  entered : one.before.conditions = one.enclosing
  left : one.after.conditions = one.before.conditions
  distinct : one.after.stepIds.Nodup
  traceless : one.refusal.isSome = true → one.call.adds = true →
    one.after.toDict = one.before.toDict

/-- What a call added to a draft. -/
structure Extends (one : MadeCall) : Prop where
  steps : ∃ added, one.after.steps = one.before.steps ++ added ∧
    List.Forall₂ Addition.Asks one.additions added
  transitions : one.after.transitions = one.before.transitions ++ one.transitions

end MadeCall

namespace Draft

section Making

variable {draft : Draft} {enclosing : List String} {call : BuilderCall}

theorem Turns.sound {refusal : Option Failure} {next : Draft}
    (turns : draft.Turns call refusal next) (entered : draft.conditions = enclosing)
    (distinct : draft.stepIds.Nodup) :
    MadeCall.Sound ⟨enclosing, call, refusal, draft, next⟩ := by
  cases turns with
  | refused => exact ⟨entered, rfl, distinct, fun _ _ => rfl⟩
  | step asks own made =>
      obtain ⟨_, fresh, _⟩ := stepOf_eq_ok made
      refine ⟨entered, rfl, ?_, nofun⟩
      rw [stepIds_withStep, ← List.concat_eq_append]
      exact distinct.concat fresh
  | transition => exact ⟨entered, rfl, distinct, nofun⟩
  | notes adds steps _ conditions =>
      refine ⟨entered, conditions, ?_, fun _ changes => ?_⟩
      · rwa [stepIds, steps]
      · rw [adds] at changes
        cases changes

theorem Turns.extends {refusal : Option Failure} {next : Draft} (single : call.isSingle = true)
    (turns : draft.Turns call refusal next) (entered : draft.conditions = enclosing) :
    MadeCall.Extends ⟨enclosing, call, refusal, draft, next⟩ := by
  cases turns with
  | refused => exact ⟨⟨[], by simp, .nil⟩, by simp [MadeCall.transitions]⟩
  | step asks own made =>
      obtain ⟨_, _, _, action, conditions⟩ := stepOf_eq_ok made
      refine ⟨⟨_, rfl, ?_⟩, ?_⟩
      · simp only [MadeCall.additions, Option.isNone_none, if_true, call.additions_eq asks]
        rw [← entered]
        exact .cons ⟨own, action, conditions⟩ .nil
      · simp only [MadeCall.transitions, MadeCall.links, call.asked_eq_nil asks, asks]
        simp only [withStep, linkTo, List.getLast?_concat]
        cases draft.steps.getLast? <;> simp
  | transition same =>
      refine ⟨⟨[], by simp, .nil⟩, ?_⟩
      simp [MadeCall.transitions, MadeCall.links, BuilderCall.asked, BuilderCall.request?, same]
  | notes adds steps transitions conditions =>
      obtain ⟨request, asked⟩ := BuilderCall.asks_nothing adds
      refine ⟨⟨[], by simp [steps], ?_⟩, ?_⟩
      · simp [MadeCall.additions, BuilderCall.additions_eq_nil single adds]
      · simp [MadeCall.transitions, MadeCall.links, request, asked, transitions]

/-- What calls leave of a draft: each of them is sound, and what they added is what the draft holds
more in the end. -/
structure Leaves (draft : Draft) (made : List MadeCall) (last : Draft) : Prop where
  sound : ∀ one ∈ made, one.Sound
  conditions : last.conditions = draft.conditions
  distinct : last.stepIds.Nodup
  steps : ∃ added, last.steps = draft.steps ++ added ∧
    List.Forall₂ Addition.Asks (made.flatMap (·.additions)) added
  transitions : last.transitions = draft.transitions ++ made.flatMap (·.transitions)

theorem Leaves.refl (distinct : draft.stepIds.Nodup) : draft.Leaves [] draft where
  sound := List.forall_mem_nil _
  conditions := rfl
  distinct := distinct
  steps := ⟨[], by simp, .nil⟩
  transitions := by simp

theorem Leaves.trans {middle last : Draft} {made others : List MadeCall}
    (first : draft.Leaves made middle) (second : middle.Leaves others last) :
    draft.Leaves (made ++ others) last where
  sound := List.forall_mem_append.mpr ⟨first.sound, second.sound⟩
  conditions := second.conditions.trans first.conditions
  distinct := second.distinct
  steps := by
    obtain ⟨added, steps, asks⟩ := first.steps
    obtain ⟨more, lastSteps, asksMore⟩ := second.steps
    refine ⟨added ++ more, by rw [lastSteps, steps, List.append_assoc], ?_⟩
    rw [List.flatMap_append]
    exact List.rel_append asks asksMore
  transitions := by
    rw [second.transitions, first.transitions, List.flatMap_append, List.append_assoc]

theorem leaves_of_sound {one : MadeCall} (sound : one.Sound) (more : one.Extends) :
    one.before.Leaves [one] one.after where
  sound := List.forall_mem_singleton.mpr sound
  conditions := sound.left
  distinct := sound.distinct
  steps := by
    rw [List.flatMap_singleton]
    exact more.steps
  transitions := by
    rw [List.flatMap_singleton]
    exact more.transitions

/-- When a block is left, its callback leaves of the draft what it made, and nothing else. -/
theorem Leaves.block {inner : Draft} {inside : List MadeCall} {text : String}
    (leaves : (draft.enter text).Leaves inside inner) (entered : draft.conditions = enclosing)
    (condition : Value) :
    draft.Leaves (inside ++ [⟨enclosing, .block condition [], none, draft, inner.leave⟩])
      inner.leave := by
  let note : MadeCall := ⟨enclosing, .block condition [], none, draft, inner.leave⟩
  have left : inner.leave.conditions = draft.conditions := by
    rw [leave, leaves.conditions, enter, List.dropLast_concat]
  have sound : note.Sound := ⟨entered, left, leaves.distinct, nofun⟩
  have additions : [note].flatMap (·.additions) = [] := rfl
  have transitions : [note].flatMap (·.transitions) = [] := rfl
  refine ⟨?_, left, leaves.distinct, ?_, ?_⟩
  · exact List.forall_mem_append.mpr ⟨leaves.sound, List.forall_mem_singleton.mpr sound⟩
  · rw [List.flatMap_append, additions, List.append_nil]
    exact leaves.steps
  · rw [List.flatMap_append, transitions, List.append_nil]
    exact leaves.transitions

/-- What the calls of a course leave of a draft whose steps have distinct ids. -/
theorem Makes.leaves {last : Draft} {made : List MadeCall} (makes : Makes enclosing draft made last)
    (entered : draft.conditions = enclosing) (distinct : draft.stepIds.Nodup) :
    draft.Leaves made last := by
  induction makes with
  | stop => exact .refl distinct
  | @call enclosing draft last made call single rest ih =>
      have turns := call_turns draft single
      have sound : (draft.make enclosing call).Sound := turns.sound entered distinct
      have leaves := leaves_of_sound sound (turns.extends single entered)
      exact leaves.trans (ih (leaves.conditions.trans entered) leaves.distinct)
  | @block enclosing draft inner last inside made condition text checked callback rest within ih =>
      have leaves := (within (congrArg (· ++ [text]) entered) distinct).block entered condition
      rw [List.append_cons]
      exact leaves.trans (ih (leaves.conditions.trans entered) leaves.distinct)

end Making

/-- Calls on a new draft are a course, and in every course, whichever calls are refused and whoever
goes on, each call leaves the conditions as they were, and without a trace if it is refused; the ids
of the steps are distinct.  The steps are those of the calls that were not refused, each with the
conditions of the blocks around it before its own, and the transitions are those that were asked for
and one to each linked step from the step before it. -/
theorem every_call_sound {name : Value} {start : Draft} (begins : named name = .ok start) :
    (∀ calls, ∃ made, Makes [] start made (start.callAll calls).2 ∧
      refusal? (start.callAll calls).1 = made.findSome? (·.refusal)) ∧
    ∀ made last, Makes [] start made last →
      (∀ one ∈ made, one.Sound) ∧ last.conditions = [] ∧ last.stepIds.Nodup ∧
        List.Forall₂ Addition.Asks (made.flatMap (·.additions)) last.steps ∧
        last.transitions = made.flatMap (·.transitions) := by
  obtain ⟨_, none, unlinked, outside⟩ := named_eq_ok begins
  refine ⟨makes_callAll [] start, fun made last makes => ?_⟩
  have distinct : start.stepIds.Nodup := by simp [stepIds, none]
  have leaves := makes.leaves outside distinct
  obtain ⟨added, steps, asks⟩ := leaves.steps
  have transitions := leaves.transitions
  rw [none, List.nil_append] at steps
  rw [unlinked, List.nil_append] at transitions
  have left : last.conditions = [] := leaves.conditions.trans outside
  exact ⟨leaves.sound, left, leaves.distinct, steps ▸ asks, transitions⟩

/-- A callback that goes on after a call was refused, and whose last call is refused too. -/
theorem every_call_sound_refused :
    let request (id : String) : StepRequest := .ofAction (.text id) (.text "act") .null
    let start := begun "order"
    let first := start.make [] (.addStep (request "pack"))
    let again := (first.after.enter "urgent").make ["urgent"] (.addStep (request "pack"))
    let second := again.after.make ["urgent"] (.append (request "ship"))
    let third := second.after.make ["urgent"] (.condition (.text " ") .null .null .null)
    let block : MadeCall :=
      ⟨[], .block (.text "urgent") [], none, first.after, third.after.leave⟩
    let made := [first, again, second, third, block]
    named (.text "order") = .ok start ∧ Makes [] start made third.after.leave ∧
      (made.map (·.refusal.isSome)) = [false, true, false, true, false] ∧
      (∀ one ∈ made, one.Sound) ∧ third.after.leave.conditions = [] ∧
      List.Forall₂ Addition.Asks (made.flatMap (·.additions)) third.after.leave.steps ∧
      third.after.leave.transitions = [⟨.text "pack", .text "ship", none⟩] := by
  intro request start first again second third block made
  have begins : named (.text "order") = .ok start := rfl
  have inside : Makes ["urgent"] (first.after.enter "urgent") [again, second, third] third.after :=
    .call _ rfl (.call _ rfl (.call _ rfl (.stop _ _)))
  have left : Makes [] first.after ([again, second, third] ++ [block]) third.after.leave :=
    .block rfl inside (.stop _ _)
  have makes : Makes [] start made third.after.leave := .call _ rfl left
  obtain ⟨sounds, outside, _, steps, transitions⟩ := (every_call_sound begins).2 made _ makes
  exact ⟨begins, makes, rfl, sounds, outside, steps, transitions.trans rfl⟩

end Draft

end Workflow
