import Workflow.Definition.Builder
import Workflow.Proofs.RoundTrip

/-!
# Definitions that are built step by step

Calls that add steps one after the other, inside of blocks or not, build a line: the steps stand in
the order in which they were added, each leads to the next one without a condition, and each has the
conditions of the blocks that it was added in before its own.  The definition that is read from the
document of such a draft is that line.
-/

namespace Workflow

/-! ## What calls add -/

/-- A step that is to be added: the id and the action that are asked for, and its conditions, those
of the blocks that it is added in before its own. -/
structure Addition where
  id : Value
  action : Value
  conditions : List Value

/-- The conditions that a request asks for. -/
def StepRequest.items (request : StepRequest) : List Value :=
  (Draft.itemsOf request.conditions).toOption.getD []

namespace BuilderCall

mutual

/-- The steps that a call adds inside of blocks with the given conditions, in order. -/
def additions (enclosing : List Value) : BuilderCall → List Addition
  | .addStep request | .append request =>
    [⟨request.id, request.action, enclosing ++ request.items⟩]
  | .http _ _ _ _ request => [⟨request.id, .text "http", enclosing ++ request.items⟩]
  | .log _ _ id => [⟨id, .text "log", enclosing⟩]
  | .delay _ _ _ id => [⟨id, .text "delay", enclosing⟩]
  | .condition _ _ _ id => [⟨id, .text "condition", enclosing⟩]
  | .block guard calls => allAdditions (enclosing ++ [guard]) calls
  | .describe _ | .setVersion _ | .addMetadata _ | .addTransition _ _ _ | .build => []

/-- The steps that calls add, one call after the other. -/
def allAdditions (enclosing : List Value) : List BuilderCall → List Addition
  | [] => []
  | next :: rest => next.additions enclosing ++ allAdditions enclosing rest

end

mutual

/-- Whether every step that a call adds follows the one before it, and the call adds no transition
besides. -/
def links : BuilderCall → Bool
  | .addStep request | .append request | .http _ _ _ _ request => request.link
  | .addTransition _ _ _ => false
  | .block _ calls => allLink calls
  | .log _ _ _ | .delay _ _ _ _ | .condition _ _ _ _ => true
  | .describe _ | .setVersion _ | .addMetadata _ | .build => true

/-- Whether all calls do. -/
def allLink : List BuilderCall → Bool
  | [] => true
  | next :: rest => next.links && allLink rest

end

end BuilderCall

/-- A step of a draft is one that was to be added; its id is given if none was asked for. -/
structure Addition.Asks (addition : Addition) (step : DraftStep) : Prop where
  id_eq : addition.id.truthy = true → addition.id = .text step.id
  action_eq : step.action = addition.action.given?
  conditions_eq : step.conditions.map .text = addition.conditions

/-! ## Drafts of lines -/

/-- Pairs of neighbours in a list extended by an item. -/
theorem zip_tail_concat {α : Type} (items : List α) (last : α) :
    (items ++ [last]).zip (items ++ [last]).tail =
      items.zip items.tail ++ (items.getLast?.map (·, last)).toList := by
  induction items with
  | nil => rfl
  | cons first rest ih =>
      cases rest with
      | nil => rfl
      | cons second others => simpa using ih

namespace Draft

/-- The ids of the steps, in the order in which they were added. -/
def stepIds (draft : Draft) : List String :=
  draft.steps.map (·.id)

/-- The steps have distinct ids, and each leads to the next one without a condition. -/
structure Linked (draft : Draft) : Prop where
  transitions_eq : draft.transitions = (draft.stepIds.zip draft.stepIds.tail).map
    fun (source, target) => ⟨.text source, .text target, none⟩
  distinct : draft.stepIds.Nodup

/-- A draft comes of another one by adding steps. -/
structure Takes (draft : Draft) (additions : List Addition) (next : Draft) : Prop where
  conditions_eq : next.conditions = draft.conditions
  linked : draft.Linked → next.Linked
  steps : ∃ added, next.steps = draft.steps ++ added ∧ List.Forall₂ Addition.Asks additions added

section Taking

variable {draft middle next : Draft} {additions others : List Addition}

theorem Takes.trans (first : draft.Takes additions middle) (second : middle.Takes others next) :
    draft.Takes (additions ++ others) next := by
  rcases first.steps with ⟨added, firstSteps, asked⟩
  rcases second.steps with ⟨more, secondSteps, askedMore⟩
  refine ⟨second.conditions_eq.trans first.conditions_eq,
    fun linked => second.linked (first.linked linked), added ++ more, ?_, ?_⟩
  · rw [secondSteps, firstSteps, List.append_assoc]
  · exact List.rel_append asked askedMore

/-- Nothing but steps and links counts for the line of a draft. -/
theorem takes_nil (conditions : next.conditions = draft.conditions)
    (steps : next.steps = draft.steps) (transitions : next.transitions = draft.transitions) :
    draft.Takes [] next := by
  refine ⟨conditions, fun linked => ⟨?_, ?_⟩, [], by simp [steps], .nil⟩
  · rw [transitions, linked.transitions_eq, stepIds, stepIds, steps]
  · rw [stepIds, steps]
    exact linked.distinct

variable {request : StepRequest}

theorem checkCondition_eq_ok {value : Value} {condition : String}
    (checks : checkCondition value = .ok condition) : value = .text condition := by
  unfold checkCondition at checks
  split at checks
  · split at checks
    · cases checks
    · cases checks
      rfl
  · cases checks

theorem mapM_checkCondition {values : List Value} {conditions : List String}
    (checks : values.mapM checkCondition = .ok conditions) : conditions.map .text = values := by
  induction values generalizing conditions with
  | nil =>
      cases checks
      rfl
  | cons value rest ih =>
      rw [List.mapM_cons] at checks
      rcases then_eq_ok.mp checks with ⟨condition, first, checks⟩
      rcases then_eq_ok.mp checks with ⟨others, later, checks⟩
      cases checks
      rw [List.map_cons, ih later, checkCondition_eq_ok first]

theorem checkId_eq_ok {value : Value} {id : String} (checks : draft.checkId value = .ok id) :
    value = .text id ∧ id ∉ draft.stepIds ∧ isIdentifier id = true := by
  unfold checkId at checks
  split at checks
  · split at checks
    · cases checks
    · next identifier =>
        split at checks
        · cases checks
        · next fresh =>
            cases checks
            refine ⟨rfl, ?_, by simpa using identifier⟩
            simpa [stepIds] using fresh
  · cases checks

theorem stepOf_eq_ok {step : DraftStep} (asks : draft.stepOf request = .ok step) :
    request.id = .text step.id ∧ step.id ∉ draft.stepIds ∧ isIdentifier step.id = true ∧
      step.action = request.action.given? ∧
      step.conditions.map .text = draft.conditions.map .text ++ request.items := by
  simp only [stepOf] at asks
  rcases then_eq_ok.mp asks with ⟨id, ids, asks⟩
  rcases then_eq_ok.mp asks with ⟨_, _, asks⟩
  rcases then_eq_ok.mp asks with ⟨_, _, asks⟩
  -- whether a timeout is asked for or not, the rest is the same
  split at asks
  all_goals
    rcases then_eq_ok.mp asks with ⟨_, _, asks⟩
    rcases then_eq_ok.mp asks with ⟨own, items, asks⟩
    rcases then_eq_ok.mp asks with ⟨conditions, checks, asks⟩
    cases asks
    rcases checkId_eq_ok ids with ⟨same, fresh, identifier⟩
    refine ⟨same, fresh, identifier, rfl, ?_⟩
    rw [mapM_checkCondition checks, StepRequest.items, items]
    rfl

/-- A step that is added follows the last one. -/
theorem addStep_takes (adds : draft.addStep request = .ok next) (link : request.link = true) :
    draft.Takes
      [⟨request.id, request.action, draft.conditions.map .text ++ request.items⟩] next := by
  rcases then_eq_ok.mp adds with ⟨step, asks, adds⟩
  rcases stepOf_eq_ok asks with ⟨sameId, fresh, _, action, conditions⟩
  simp only [link, if_true] at adds
  cases adds
  refine ⟨rfl, fun linked => ⟨?_, ?_⟩, [step], rfl, ?_⟩
  · have ids : stepIds { draft with
        steps := draft.steps ++ [step], transitions := draft.transitions ++ draft.linkTo step.id } =
        draft.stepIds ++ [step.id] := by
      simp [stepIds]
    rw [ids, zip_tail_concat, List.map_append, ← linked.transitions_eq]
    simp only [linkTo, stepIds, List.getLast?_map]
    cases draft.steps.getLast? <;> rfl
  · simp only [stepIds, List.map_append, List.map_cons, List.map_nil]
    rw [List.nodup_append]
    refine ⟨linked.distinct, by simp, fun id member last same => ?_⟩
    rw [List.mem_singleton.mp same]
    rintro rfl
    exact fresh member
  · exact .cons ⟨fun _ => sameId, action, conditions⟩ .nil

/-- A step is given an id if none is asked for. -/
theorem append_takes (adds : draft.append request = .ok next) (link : request.link = true) :
    draft.Takes
      [⟨request.id, request.action, draft.conditions.map .text ++ request.items⟩] next := by
  unfold append at adds
  split at adds
  · exact addStep_takes adds link
  · next untruthy =>
      have takes := addStep_takes adds link
      rcases takes.steps with ⟨added, steps, asked⟩
      refine ⟨takes.conditions_eq, takes.linked, added, steps, ?_⟩
      cases asked with
      | cons first none =>
          cases none
          exact .cons ⟨fun truthy => absurd truthy untruthy, first.action_eq, first.conditions_eq⟩
            .nil

/-- A step for an action of the draft's own has no conditions but those of the blocks. -/
theorem append_ofAction_takes {id action parameters : Value}
    (adds : draft.append (.ofAction id action parameters) = .ok next) :
    draft.Takes [⟨id, action, draft.conditions.map .text⟩] next := by
  have takes := append_takes adds rfl
  rwa [show (StepRequest.ofAction id action parameters).items = [] from rfl, List.append_nil]
    at takes

theorem settle_eq_ok {changed : Except Failure Draft} {given : Option Definition}
    (settles : draft.settle changed = (.ok given, next)) : changed = .ok next := by
  cases changed with
  | error failure => cases settles
  | ok last =>
      cases settles
      rfl

theorem addDelay_takes {seconds minutes hours id : Value}
    (adds : draft.addDelay seconds minutes hours id = .ok next) :
    draft.Takes [⟨id, .text "delay", draft.conditions.map .text⟩] next := by
  rcases then_eq_ok.mp adds with ⟨total, _, adds⟩
  rcases then_eq_ok.mp adds with ⟨spent, _, adds⟩
  cases spent with
  | true => cases adds
  | false => exact append_ofAction_takes adds

theorem addHttp_takes {url method data headers : Value}
    (adds : draft.addHttp url method data headers request = .ok next) (link : request.link = true) :
    draft.Takes [⟨request.id, .text "http", draft.conditions.map .text ++ request.items⟩] next := by
  unfold addHttp at adds
  split at adds
  · simp only at adds
    exact append_takes adds link
  · cases adds

theorem addCondition_takes {expression onTrue onFalse id : Value}
    (adds : draft.addCondition expression onTrue onFalse id = .ok next) :
    draft.Takes [⟨id, .text "condition", draft.conditions.map .text⟩] next := by
  rcases then_eq_ok.mp adds with ⟨checked, _, adds⟩
  exact append_ofAction_takes adds

end Taking

mutual

/-- A call adds its steps to the line of a draft. -/
theorem call_takes {draft next : Draft} {given : Option Definition} (call : BuilderCall)
    (links : call.links = true) (made : draft.call call = (.ok given, next)) :
    draft.Takes (call.additions (draft.conditions.map .text)) next := by
  cases call with
  | describe description | setVersion version =>
      cases made
      exact takes_nil rfl rfl rfl
  | addMetadata metadata | build =>
      cases congrArg Prod.snd made
      exact takes_nil rfl rfl rfl
  | addStep request => exact addStep_takes (settle_eq_ok made) links
  | append request => exact append_takes (settle_eq_ok made) links
  | addTransition => cases links
  | block condition calls =>
      unfold Draft.call at made
      split at made
      · cases made
      · next text checks =>
          cases checkCondition_eq_ok checks
          cases inside : callAll { draft with conditions := draft.conditions ++ [text] } calls with
          | mk outcome inner =>
              rw [inside] at made
              cases outcome with
              | error failure => cases made
              | ok _ =>
                  cases made
                  have takes := callAll_takes calls links inside
                  refine ⟨?_, fun linked => ?_, ?_⟩
                  · simp [takes.conditions_eq]
                  · have linked := takes.linked ⟨linked.transitions_eq, linked.distinct⟩
                    exact ⟨linked.transitions_eq, linked.distinct⟩
                  · simpa [BuilderCall.additions] using takes.steps
  | log message level id => exact append_ofAction_takes (settle_eq_ok made)
  | delay seconds minutes hours id => exact addDelay_takes (settle_eq_ok made)
  | http url method data headers request => exact addHttp_takes (settle_eq_ok made) links
  | condition expression onTrue onFalse id => exact addCondition_takes (settle_eq_ok made)

/-- Calls add their steps to the line of a draft, one call after the other. -/
theorem callAll_takes {draft next : Draft} (calls : List BuilderCall)
    (links : BuilderCall.allLink calls = true) (made : draft.callAll calls = (.ok (), next)) :
    draft.Takes (BuilderCall.allAdditions (draft.conditions.map .text) calls) next := by
  cases calls with
  | nil =>
      cases made
      exact takes_nil rfl rfl rfl
  | cons call rest =>
      rcases Bool.and_eq_true_iff.mp links with ⟨first, others⟩
      unfold Draft.callAll at made
      split at made
      · cases made
      · next middle calls =>
          have takes := call_takes call first calls
          have later := callAll_takes rest others made
          rw [takes.conditions_eq] at later
          exact takes.trans later

end

/-! ## What calls keep of the steps -/

/-- A property of the steps of a draft that is kept when a step is added. -/
def Admits (kept : List DraftStep → Prop) : Prop :=
  ∀ (draft : Draft) (request : StepRequest) (step : DraftStep),
    draft.stepOf request = .ok step → kept draft.steps → kept (draft.steps ++ [step])

section Keeping

variable {kept : List DraftStep → Prop} {draft next : Draft} {request : StepRequest}

theorem Admits.addStep (admits : Admits kept) (adds : draft.addStep request = .ok next)
    (holds : kept draft.steps) : kept next.steps := by
  rcases then_eq_ok.mp adds with ⟨step, asks, adds⟩
  cases adds
  exact admits draft request step asks holds

theorem Admits.append (admits : Admits kept) (adds : draft.append request = .ok next)
    (holds : kept draft.steps) : kept next.steps := by
  unfold Draft.append at adds
  split at adds
  · exact admits.addStep adds holds
  · exact admits.addStep adds holds

/-- A change that is refused leaves the steps as they were. -/
theorem settle_keeps {changed : Except Failure Draft} (holds : kept draft.steps)
    (changes : ∀ next, changed = .ok next → kept next.steps) :
    kept (draft.settle changed).2.steps := by
  cases changed with
  | error failure => exact holds
  | ok next => exact changes next rfl

end Keeping

mutual

/-- Whether it is refused or not, a call keeps what is kept when a step is added. -/
theorem Admits.call {kept : List DraftStep → Prop} (admits : Admits kept) (draft : Draft)
    (call : BuilderCall) (holds : kept draft.steps) : kept (draft.call call).2.steps := by
  cases call with
  | describe | setVersion | addMetadata | build => exact holds
  | addStep request => exact settle_keeps holds fun _ adds => admits.addStep adds holds
  | append request => exact settle_keeps holds fun _ adds => admits.append adds holds
  | addTransition source target condition =>
      refine settle_keeps holds fun next adds => ?_
      simp only [addTransition] at adds
      split at adds
      all_goals
        rcases then_eq_ok.mp adds with ⟨checked, _, adds⟩
        cases adds
        exact holds
  | block condition calls =>
      unfold Draft.call
      split
      · exact holds
      · next text _ =>
          exact admits.callAll { draft with conditions := draft.conditions ++ [text] } calls holds
  | log message level id => exact settle_keeps holds fun _ adds => admits.append adds holds
  | delay seconds minutes hours id =>
      refine settle_keeps holds fun next adds => ?_
      rcases then_eq_ok.mp adds with ⟨total, _, adds⟩
      rcases then_eq_ok.mp adds with ⟨spent, _, adds⟩
      cases spent with
      | true => cases adds
      | false => exact admits.append adds holds
  | http url method data headers request =>
      refine settle_keeps holds fun next adds => ?_
      unfold addHttp at adds
      split at adds
      · exact admits.append adds holds
      · cases adds
  | condition expression onTrue onFalse id =>
      refine settle_keeps holds fun next adds => ?_
      rcases then_eq_ok.mp adds with ⟨checked, _, adds⟩
      exact admits.append adds holds

/-- Calls keep what is kept when a step is added, up to the first call that is refused. -/
theorem Admits.callAll {kept : List DraftStep → Prop} (admits : Admits kept) (draft : Draft)
    (calls : List BuilderCall) (holds : kept draft.steps) : kept (draft.callAll calls).2.steps := by
  cases calls with
  | nil => exact holds
  | cons call rest =>
      have first := admits.call draft call holds
      unfold Draft.callAll
      split
      · next refused =>
          rw [refused] at first
          exact first
      · next made =>
          rw [made] at first
          exact admits.callAll _ rest first

end

end Draft

/-! ## Documents that were opened -/

/-- A value as it is found in a document that was opened, perhaps more than once. -/
inductive Value.Opens (value : Value) : Value → Prop where
  | refl : Opens value value
  | tied {found whole : Value} (levels : Nat) : Opens value found →
      (∀ scalar, whole ≠ .scalar scalar) → Opens value (Value.tied whole levels found)

/-- A mapping as it is found in a document that was opened. -/
def Dict.Opens (fields found : Dict) : Prop :=
  ∀ name, Option.Rel Value.Opens (fields.field? name) (found.field? name)

section Fields

variable {fields found : Dict} {name : String}

/-- A field that is missing in a mapping is missing when it is opened. -/
theorem Dict.Opens.missing (opens : fields.Opens found) (missing : fields.field? name = none) :
    found.field? name = none := by
  have related := opens name
  rw [missing] at related
  generalize found.field? name = seen at related ⊢
  cases related
  rfl

theorem Dict.Opens.held {value : Value} (opens : fields.Opens found)
    (held : fields.field? name = some value) :
    ∃ seen, found.field? name = some seen ∧ value.Opens seen := by
  have related := opens name
  rw [held] at related
  generalize found.field? name = seen at related ⊢
  cases related with
  | some opens => exact ⟨_, rfl, opens⟩

theorem Dict.Opens.seen {value : Value} (opens : fields.Opens found)
    (seen : found.field? name = some value) :
    ∃ held, fields.field? name = some held ∧ held.Opens value := by
  have related := opens name
  rw [seen] at related
  generalize fields.field? name = held at related ⊢
  cases related with
  | some opens => exact ⟨_, rfl, opens⟩

end Fields

theorem Dict.field?_tiedEntries (whole : Value) (levels : Nat) (fields : Dict) (name : String) :
    Dict.field? (Value.tiedEntries whole levels fields) name =
      (fields.field? name).map (Value.tied whole levels) := by
  induction fields with
  | nil => rfl
  | cons entry rest ih =>
      simp only [Value.tiedEntries, Dict.field?, Dict.find?, List.find?_cons] at ih ⊢
      cases entry.1.same (.text name) with
      | true => rfl
      | false => exact ih

theorem Value.tiedItems_eq_map (whole : Value) (levels : Nat) (items : List Value) :
    Value.tiedItems whole levels items = items.map (Value.tied whole levels) := by
  induction items with
  | nil => rfl
  | cons item rest ih => rw [Value.tiedItems, ih, List.map_cons]

namespace Value.Opens

theorem scalar_eq {scalar : Scalar} {value : Value} (opens : (Value.scalar scalar).Opens value) :
    value = .scalar scalar := by
  induction opens with
  | refl => rfl
  | tied levels _ _ ih =>
      rw [ih]
      rfl

theorem of_dict {fields : Dict} {value : Value} (opens : (Value.dict fields).Opens value) :
    ∃ found, value = .dict found ∧ fields.Opens found := by
  induction opens with
  | refl =>
      refine ⟨fields, rfl, fun name => ?_⟩
      cases Dict.field? fields name with
      | none => exact .none
      | some held => exact .some .refl
  | @tied other whole levels _ container ih =>
      rcases ih with ⟨found, rfl, opens⟩
      refine ⟨Value.tiedEntries whole (levels + 1) found, rfl, fun name => ?_⟩
      have related := opens name
      rw [Dict.field?_tiedEntries]
      generalize Dict.field? fields name = held at related ⊢
      generalize Dict.field? found name = seen at related ⊢
      cases related with
      | none => exact .none
      | some opens => exact .some (.tied _ opens container)

theorem of_list {items : List Value} {value : Value} (opens : (Value.list items).Opens value) :
    ∃ found, value = .list found ∧ List.Forall₂ Value.Opens items found := by
  induction opens with
  | refl => exact ⟨items, rfl, List.forall₂_same.mpr fun _ _ => .refl⟩
  | @tied other whole levels _ container ih =>
      rcases ih with ⟨found, rfl, all⟩
      refine ⟨Value.tiedItems whole (levels + 1) found, rfl, ?_⟩
      rw [tiedItems_eq_map, List.forall₂_map_right_iff]
      exact all.imp fun _ _ opens => .tied _ opens container

theorem texts_eq {texts : List String} {value : Value} (opens : (Value.ofTexts texts).Opens value) :
    value = .ofTexts texts := by
  rcases opens.of_list with ⟨found, rfl, all⟩
  have same : List.Forall₂ (· = ·) (texts.map .text) found := by
    rw [List.forall₂_map_left_iff] at all ⊢
    exact all.imp fun _ _ opens => opens.scalar_eq.symm
  rw [List.forall₂_eq_eq_eq] at same
  rw [← same]
  rfl

/-- A value that is opened once more. -/
theorem opened {value found : Value} (opens : value.Opens found)
    (container : ∀ scalar, found ≠ .scalar scalar) : value.Opens found.opened :=
  .tied 0 opens container

theorem opened_dict {fields : Dict} {value : Value} (opens : (Value.dict fields).Opens value) :
    ∃ found, value.opened = .dict found ∧ fields.Opens found := by
  rcases opens.of_dict with ⟨_, rfl, _⟩
  exact (opens.opened (by rintro _ ⟨⟩)).of_dict

theorem opened_list {items : List Value} {value : Value} (opens : (Value.list items).Opens value) :
    ∃ found, value.opened = .list found ∧ List.Forall₂ Value.Opens items found := by
  rcases opens.of_list with ⟨_, rfl, _⟩
  exact (opens.opened (by rintro _ ⟨⟩)).of_list

end Value.Opens

/-! ## What is read of a draft -/

theorem DraftStep.field?_id (step : DraftStep) : step.toDict.field? "id" = some (.text step.id) := by
  simp [toDict, Dict.field?_ofFields]

theorem lookup_given (name key : String) (given : Option Value) :
    (given.map fun value => (key, value)).toList.lookup name =
      if name = key then given else none := by
  have whole := lookup_toList name key id given
  rwa [Option.map_id] at whole

/-- A step is read from a step of a draft. -/
structure DraftStep.ReadAs (step : DraftStep) (entry : String × Step) : Prop where
  key_eq : entry.1 = step.id
  id_eq : entry.2.id = step.id
  action_eq : ∀ action, entry.2.action = some action ↔ step.action = some (.text action)
  conditions_eq : entry.2.conditions = step.conditions

/-- A transition is read from a transition of a draft. -/
structure DraftTransition.ReadAs (link : DraftTransition) (transition : Transition) : Prop where
  source_eq : link.source = .text transition.source
  target_eq : link.target = .text transition.target
  condition_eq : transition.condition = link.condition

namespace Definition

section Steps

variable {id : String} {fields : Dict}

end Steps

section Transitions

variable {known : List String}

end Transitions

/-- The steps have distinct ids, and each leads to the next one without a condition, and nowhere
else. -/
structure Line (definition : Definition) : Prop where
  links : definition.transitions.map (fun link => (link.source, link.target, link.condition)) =
    (definition.stepIds.zip definition.stepIds.tail).map fun (source, target) =>
      (source, target, none)
  distinct : definition.stepIds.Nodup

end Definition

/-- Images of related items are the same when those of any two related items are. -/
theorem map_eq_of_forall₂ {α β γ : Type} {related : α → β → Prop} {left : α → γ} {right : β → γ}
    {items : List α} {others : List β} (all : List.Forall₂ related items others)
    (same : ∀ item other, related item other → right other = left item) :
    others.map right = items.map left := by
  induction all with
  | nil => rfl
  | cons first _ ih => rw [List.map_cons, List.map_cons, same _ _ first, ih]

/-- A linked draft is read as a line. -/
theorem Draft.Linked.line {draft : Draft} {definition : Definition} (linked : draft.Linked)
    (steps : List.Forall₂ DraftStep.ReadAs draft.steps definition.steps)
    (links : List.Forall₂ DraftTransition.ReadAs draft.transitions definition.transitions) :
    definition.Line := by
  have ids : definition.stepIds = draft.stepIds :=
    map_eq_of_forall₂ steps fun _ _ reads => reads.key_eq
  rw [linked.transitions_eq, List.forall₂_map_left_iff] at links
  constructor
  · rw [ids]
    apply map_eq_of_forall₂ links
    rintro ⟨source, target⟩ transition reads
    cases reads.source_eq
    cases reads.target_eq
    rw [reads.condition_eq]
  · rw [ids]
    exact linked.distinct

theorem Draft.named_eq_ok {name : Value} {draft : Draft} (begins : Draft.named name = .ok draft) :
    isIdentifier draft.name = true ∧ draft.steps = [] ∧ draft.transitions = [] ∧
      draft.conditions = [] := by
  unfold Draft.named at begins
  split at begins
  · split at begins
    · cases begins
    · split at begins
      · cases begins
      · next identifier =>
          cases begins
          exact ⟨by simpa using identifier, rfl, rfl, rfl⟩
  · cases begins

end Workflow
