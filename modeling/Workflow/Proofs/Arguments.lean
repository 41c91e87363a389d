import Workflow.Proofs.Agreement
import Workflow.Proofs.Drafting

/-!
# Arguments of the kinds that are declared

Calls whose arguments are texts, whole numbers, mappings from texts and lists of texts, as they are
declared, are refused with errors in definitions only, unless a number has more digits than are
read.  A text of one character behind digits passes for a timeout of a draft; it is taken to be a
timeout here.
-/

namespace Workflow

/-! ## Numbers in texts -/

section Digits

variable {c : Char} {cs : List Char}

theorem isDecimalDigit_iff : Text.isDecimalDigit c = true ↔
    ∃ first ∈ Text.zeroDigits, first ≤ c.toNat ∧ c.toNat < first + 10 := by
  simp [Text.isDecimalDigit, Text.digitValue?, List.find?_isSome]

theorem isDecimalDigit_of_isDigit (digit : c.isDigit = true) : Text.isDecimalDigit c = true := by
  simp only [Char.isDigit, Bool.and_eq_true, decide_eq_true_eq] at digit
  refine isDecimalDigit_iff.mpr ⟨48, List.mem_cons_self, ?_, ?_⟩
  · exact digit.1
  · exact Nat.lt_succ_of_le digit.2

/-- No digit is white space. -/
theorem isBlank_of_isDecimalDigit (digit : Text.isDecimalDigit c = true) :
    Text.isBlank c = false := by
  obtain ⟨first, zero, least, most⟩ := isDecimalDigit_iff.mp digit
  have apart : ∀ first ∈ Text.zeroDigits, ∀ range ∈ Text.blankRanges,
      range.2 < first ∨ first + 10 ≤ range.1 := by decide
  rw [← Bool.not_eq_true, Text.isBlank, Text.inRanges, List.any_eq_true]
  rintro ⟨range, member, inside⟩
  simp only [Bool.and_eq_true, decide_eq_true_eq] at inside
  have other := apart first zero range member
  omega

theorem trim_of_isDecimalDigit (decimal : ∀ c ∈ cs, Text.isDecimalDigit c = true) :
    Text.trim cs = cs := by
  have kept (cs : List Char) (decimal : ∀ c ∈ cs, Text.isDecimalDigit c = true) :
      Text.trimStart cs = cs := by
    cases cs with
    | nil => rfl
    | cons c rest =>
        have filled := isBlank_of_isDecimalDigit (decimal c List.mem_cons_self)
        simp [Text.trimStart, filled]
  rw [Text.trim, kept cs decimal, Text.trimEnd, kept cs.reverse, List.reverse_reverse]
  simpa using decimal

theorem groupedDigits?_isSome (decimal : ∀ c ∈ cs, Text.isDecimalDigit c = true)
    (nonempty : cs ≠ []) : (Number.groupedDigits? cs).isSome = true := by
  induction cs with
  | nil => exact absurd rfl nonempty
  | cons c rest ih =>
      obtain ⟨first, later⟩ := List.forall_mem_cons.mp decimal
      obtain ⟨digit, value⟩ := Option.isSome_iff_exists.mp first
      rw [Number.groupedDigits?.eq_def]
      simp only [value, Option.bind_eq_bind, Option.bind_some]
      split
      · rfl
      · exact absurd (later '_' List.mem_cons_self) (by decide)
      · next rest more _ =>
          have whole := ih later more
          obtain ⟨digits, same⟩ := Option.isSome_iff_exists.mp whole
          rw [same]
          rfl

theorem readInteger_eq_ok (decimal : ∀ c ∈ cs, Text.isDecimalDigit c = true)
    (nonempty : cs ≠ []) (short : cs.length ≤ Number.digitLimit) :
    ∃ number, Number.readInteger (String.ofList cs) = .ok number := by
  have unsigned : Number.takeSign cs = (false, cs) := by
    unfold Number.takeSign
    split
    · exact absurd (decimal '-' List.mem_cons_self) (by decide)
    · exact absurd (decimal '+' List.mem_cons_self) (by decide)
    · rfl
  have few : ((cs.takeWhile fun c => Text.isDecimalDigit c || c = '_').filter (· ≠ '_')).length ≤
      Number.digitLimit :=
    (List.filter_sublist.trans (List.takeWhile_sublist _)).length_le.trans short
  obtain ⟨digits, grouped⟩ := Option.isSome_iff_exists.mp (groupedDigits?_isSome decimal nonempty)
  simp only [Number.readInteger, String.toList_ofList, trim_of_isDecimalDigit decimal, unsigned,
    Nat.not_lt.mpr few, if_false, grouped]
  exact ⟨_, rfl⟩

/-- A number of seconds that is written as a timeout. -/
theorem isTimeout_seconds {seconds : Int} (positive : 0 < seconds) :
    isTimeout s!"{seconds}s" = true := by
  obtain ⟨count, rfl⟩ := Int.eq_ofNat_of_zero_le (Int.le_of_lt positive)
  have written : s!"{(count : Int)}s".toList = Number.digitText count ++ ['s'] :=
    String.toList_append
  refine isTimeout_of_toList written ?_ ?_ (by decide) (.inl rfl)
  · simp [Json.digitText_eq_toDigits]
  · exact fun c member => isDecimalDigit_of_isDigit (Json.isDigit_of_mem_digitText member)

end Digits

/-- A text of one character behind digits of any kind; a draft looks at its number only. -/
def SeemsTimeout (text : String) : Prop :=
  text.toList.dropLast ≠ [] ∧ ∀ c ∈ text.toList.dropLast, Text.isDigitLike c = true

theorem seemsTimeout_iff {text : String} :
    (!text.toList.dropLast.isEmpty && text.toList.dropLast.all Text.isDigitLike) = true ↔
      SeemsTimeout text := by
  simp [SeemsTimeout]

/-- A timeout of one character behind digits has digits with place value there. -/
theorem SeemsTimeout.decimal {text : String} (seems : SeemsTimeout text)
    (timed : isTimeout text = true) :
    ∀ c ∈ text.toList.dropLast, Text.isDecimalDigit c = true := by
  obtain ⟨digits, unit, characters, _, decimal, _⟩ |
    ⟨_, characters, digits, unit, rfl, _, _, known⟩ := isTimeout_iff.mp timed
  · rw [characters, List.dropLast_concat]
    exact decimal
  · -- a unit before a line break is no digit
    have inside : unit ∈ text.toList.dropLast := by simp [characters]
    have digit := seems.2 unit inside
    simp only [List.mem_cons, List.not_mem_nil, or_false] at known
    rcases known with rfl | rfl | rfl | rfl <;> exact absurd digit (by decide)

/-! ## Arguments of the kinds that are declared -/

namespace Value

/-- Null, or a value of a kind. -/
def Optionally (kind : Value → Prop) (value : Value) : Prop :=
  value = .null ∨ kind value

/-- A text. -/
def IsText (value : Value) : Prop :=
  ∃ text, value = .text text

/-- A whole number; a truth value counts as one. -/
def IsWhole (value : Value) : Prop :=
  (∃ number, value = .int number) ∨ ∃ truth, value = .bool truth

/-- A mapping from texts. -/
def IsKeyed (value : Value) : Prop :=
  ∃ entries : Dict, value = .dict entries ∧ entries.KeyedByText

/-- A list of texts. -/
def IsTextList (value : Value) : Prop :=
  ∃ texts : List String, value = .ofTexts texts

/-- A whole number, or a text that is a timeout if it seems to be one. -/
def IsTimeLimit (value : Value) : Prop :=
  value.IsWhole ∨ ∃ text, value = .text text ∧ (SeemsTimeout text → isTimeout text = true)

/-- Whether a number, or the number of a timeout, has no more digits than are read. -/
def isBrief : Value → Bool
  | .text content => content.length ≤ Number.digitLimit + 1
  | value => value.isShown

end Value

/-- A request whose parts are of the kinds they are declared with. -/
structure StepRequest.Typed (request : StepRequest) : Prop where
  id : request.id.Optionally Value.IsText
  action : request.action.Optionally Value.IsText
  parameters : request.parameters.Optionally Value.IsKeyed
  timeout : request.timeout.Optionally Value.IsTimeLimit
  retryAttempts : request.retryAttempts.IsWhole
  conditions : request.conditions.Optionally Value.IsTextList
  compensation : request.compensation.Optionally Value.IsText

/-- The numbers that are asked for have no more digits than are read. -/
structure StepRequest.IsBrief (request : StepRequest) : Prop where
  timeout : request.timeout.isBrief = true
  retryAttempts : request.retryAttempts.isBrief = true

/-- Neither the action nor the compensation that is asked for is blank. -/
structure StepRequest.Refers (request : StepRequest) : Prop where
  action : request.action.isBlank = false
  compensation : request.compensation.isBlank = false

namespace BuilderCall

/-- A call whose arguments are of the kinds they are declared with, where their kinds matter. -/
def Typed : BuilderCall → Prop
  | .describe _ | .build => True
  | .setVersion version => version.IsText
  | .addMetadata metadata => metadata.IsKeyed
  | .addStep request | .append request => request.Typed
  | .addTransition source target guard =>
    source.IsText ∧ target.IsText ∧ guard.Optionally Value.IsText
  | .block guard _ => guard.IsText
  | .log _ _ id => id.Optionally Value.IsText
  | .delay seconds minutes hours id =>
    seconds.IsWhole ∧ minutes.IsWhole ∧ hours.IsWhole ∧ id.Optionally Value.IsText
  | .http _ method _ _ request => method.IsText ∧ request.Typed
  | .condition expression _ _ id => expression.IsText ∧ id.Optionally Value.IsText

/-- The numbers of the step that a call asks for have no more digits than are read. -/
def IsBrief (call : BuilderCall) : Prop :=
  ∀ request ∈ call.request?, request.IsBrief

end BuilderCall

theorem StepRequest.ofAction_typed {id : Value} {action : String} {fields : List (String × Value)}
    (named : id.Optionally Value.IsText) (distinct : (fields.map (·.1)).Nodup) :
    (StepRequest.ofAction id (.text action) (.ofFields fields)).Typed where
  id := named
  action := .inr ⟨action, rfl⟩
  parameters := .inr ⟨_, rfl, Dict.keyedByText_ofFields distinct⟩
  timeout := .inl rfl
  retryAttempts := .inl ⟨0, rfl⟩
  conditions := .inl rfl
  compensation := .inl rfl

/-- The step that a call of the right kinds is short for is of the right kinds. -/
theorem BuilderCall.Typed.request {call : BuilderCall} {request : StepRequest}
    (typed : call.Typed) (asks : call.request? = some request) : request.Typed := by
  cases call with
  | addStep | append =>
      cases asks
      exact typed
  | log =>
      cases asks
      exact StepRequest.ofAction_typed typed (by simp)
  | delay =>
      obtain ⟨total, _, rfl⟩ := Option.map_eq_some_iff.mp asks
      exact StepRequest.ofAction_typed typed.2.2.2 (by simp)
  | http url method data headers given =>
      obtain ⟨method, _, rfl⟩ := Option.map_eq_some_iff.mp asks
      have distinct : ["url", "method", "data", "headers"].Nodup := by decide
      have optional (key : String) (value : Value) :
          ((if value.truthy then [(key, value)] else []).map (·.1)).Sublist [key] := by
        split <;> simp
      refine { typed.2 with action := .inr ⟨_, rfl⟩, parameters := .inr ⟨_, rfl, ?_⟩ }
      apply Dict.keyedByText_ofFields (List.Nodup.sublist _ distinct)
      simp only [List.map_append]
      exact ((List.Sublist.refl ["url", "method"]).append (optional "data" data)).append
        (optional "headers" headers)
  | condition expression onTrue onFalse id =>
      cases asks
      have distinct : ["condition", "on_true", "on_false"].Nodup := by decide
      refine StepRequest.ofAction_typed typed.2 (List.Nodup.sublist ?_ distinct)
      simp only [List.map_append]
      exact ((List.Sublist.refl ["condition"]).append (keys_toList _ _ _)).append
        (keys_toList _ _ _)
  | describe | setVersion | addMetadata | addTransition | block | build => cases asks

/-! ## How calls are refused -/

/-- A failure is an error in a definition, or comes of a number with more digits than are read. -/
def Refuses (brief : Prop) (failure : Failure) : Prop :=
  (∃ error, failure = .definition error) ∨ ¬ brief ∧ failure.kind = "ValueError"

namespace Draft

section Refusals

variable {draft : Draft} {brief : Prop} {request : StepRequest}

theorem refuse_refuses {α : Type} {fault : DefinitionFault}
    (shown : brief → fault.shown.isShown = true) :
    FailsOnly (Refuses brief) (refuse fault : Except Failure α) := by
  apply FailsOnly.error
  split
  · exact .inl ⟨_, rfl⟩
  · next unshown => exact .inr ⟨fun few => unshown (shown few), rfl⟩

theorem checkId_refuses {id : Value} (typed : id.Optionally Value.IsText) :
    FailsOnly (Refuses brief) (draft.checkId id) := by
  obtain rfl | ⟨text, rfl⟩ := typed
  · exact refuse_refuses fun _ => rfl
  · simp only [checkId]
    split
    · exact refuse_refuses fun _ => rfl
    · split
      · exact refuse_refuses fun _ => rfl
      · exact FailsOnly.ok _

theorem checkRetryAttempts_refuses {id : String} {attempts : Value} (whole : attempts.IsWhole)
    (short : brief → attempts.isBrief = true) :
    FailsOnly (Refuses brief) (checkRetryAttempts id attempts) := by
  obtain ⟨number, rfl⟩ | ⟨truth, rfl⟩ := whole
  · simp only [checkRetryAttempts]
    split
    · exact FailsOnly.ok _
    · exact refuse_refuses short
  · exact refuse_refuses fun _ => rfl

theorem checkTimeout_refuses {id : String} {timeout : Value} (typed : timeout.IsTimeLimit)
    (short : brief → timeout.isBrief = true) :
    FailsOnly (Refuses brief) (checkTimeout id timeout) := by
  obtain (⟨number, rfl⟩ | ⟨truth, rfl⟩) | ⟨text, rfl, timed⟩ := typed
  · simp only [checkTimeout]
    split
    · exact refuse_refuses short
    · split
      · next unshown =>
          refine FailsOnly.error (.inr ⟨fun few => ?_, rfl⟩)
          have shown : (Value.int number).isShown = true := short few
          simp [shown] at unshown
      · exact FailsOnly.ok _
  · exact refuse_refuses fun _ => rfl
  · simp only [checkTimeout]
    split
    · next seems =>
        have seems := seemsTimeout_iff.mp seems
        split
        · next unread =>
            refine FailsOnly.error (.inr ⟨fun few => ?_, rfl⟩)
            have size : text.length ≤ Number.digitLimit + 1 := by
              simpa [Value.isBrief] using short few
            have digits : text.toList.dropLast.length ≤ Number.digitLimit := by
              rw [List.length_dropLast, String.length_toList]
              omega
            obtain ⟨number, reads⟩ :=
              readInteger_eq_ok (seems.decimal (timed seems)) seems.1 digits
            cases unread.symm.trans reads
        · split
          · exact FailsOnly.ok _
          · exact refuse_refuses fun _ => rfl
    · exact refuse_refuses fun _ => rfl

theorem checkCondition_refuses {condition : Value} (typed : condition.IsText) :
    FailsOnly (Refuses brief) (checkCondition condition) := by
  obtain ⟨text, rfl⟩ := typed
  simp only [checkCondition]
  split
  · exact refuse_refuses fun _ => rfl
  · exact FailsOnly.ok _

theorem mapM_checkCondition_refuses {conditions : List Value}
    (typed : ∀ condition ∈ conditions, condition.IsText) :
    FailsOnly (Refuses brief) (conditions.mapM checkCondition) := by
  induction conditions with
  | nil => exact FailsOnly.ok _
  | cons condition rest ih =>
      obtain ⟨first, later⟩ := List.forall_mem_cons.mp typed
      rw [List.mapM_cons]
      refine (checkCondition_refuses first).bind fun _ _ => ?_
      exact (ih later).bind fun _ _ => FailsOnly.ok _

theorem itemsOf_typed {value : Value} (typed : value.Optionally Value.IsTextList) :
    ∃ items, itemsOf value = .ok items ∧ ∀ item ∈ items, item.IsText := by
  obtain rfl | ⟨texts, rfl⟩ := typed
  · exact ⟨[], rfl, List.forall_mem_nil _⟩
  · refine ⟨texts.map .text, ?_, ?_⟩
    · cases texts <;> rfl
    · intro item member
      obtain ⟨text, _, rfl⟩ := List.mem_map.mp member
      exact ⟨text, rfl⟩

theorem ofValue_typed {value : Value} (typed : value.Optionally Value.IsKeyed) :
    ∃ entries, Dict.ofValue value = .ok entries ∧ entries.KeyedByText := by
  obtain rfl | ⟨entries, rfl, keyed⟩ := typed
  · exact ⟨[], rfl, Dict.keyedByText_nil⟩
  · exact ⟨entries, Dict.ofValue_dict keyed, keyed⟩

/-- A request of the right kinds is refused with an error in a definition, unless a number of it has
more digits than are read. -/
theorem stepOf_refuses (typed : request.Typed) (short : brief → request.IsBrief) :
    FailsOnly (Refuses brief) (draft.stepOf request) := by
  obtain ⟨parameters, mapping, _⟩ := ofValue_typed typed.parameters
  obtain ⟨items, own, texts⟩ := itemsOf_typed typed.conditions
  have inherited : ∀ condition ∈ draft.conditions.map Value.text ++ items, condition.IsText := by
    refine List.forall_mem_append.mpr ⟨fun condition member => ?_, texts⟩
    obtain ⟨text, _, rfl⟩ := List.mem_map.mp member
    exact ⟨text, rfl⟩
  simp only [stepOf, mapping, own]
  refine (checkId_refuses typed.id).bind fun id _ => ?_
  refine (checkRetryAttempts_refuses typed.retryAttempts fun few => (short few).retryAttempts).bind
    fun _ _ => ?_
  refine FailsOnly.bind (FailsOnly.ok _) fun _ _ => ?_
  have rest (build : List String → DraftStep) : FailsOnly (Refuses brief) (do
      let own ← .ok items
      let conditions ← (draft.conditions.map Value.text ++ own).mapM checkCondition
      .ok (build conditions)) :=
    (mapM_checkCondition_refuses inherited).bind fun _ _ => FailsOnly.ok _
  split
  · exact FailsOnly.bind (FailsOnly.ok _) fun _ _ => rest _
  · next given =>
      have limit := typed.timeout.resolve_left given
      refine FailsOnly.bind ?_ fun _ _ => rest _
      exact (checkTimeout_refuses limit fun few => (short few).timeout).map some

theorem addStep_refuses (typed : request.Typed) (short : brief → request.IsBrief) :
    FailsOnly (Refuses brief) (draft.addStep request) :=
  (stepOf_refuses typed short).bind fun _ _ => FailsOnly.ok _

theorem append_refuses (typed : request.Typed) (short : brief → request.IsBrief) :
    FailsOnly (Refuses brief) (draft.append request) := by
  unfold Draft.append
  split
  · exact addStep_refuses typed short
  · refine addStep_refuses { typed with id := .inr ⟨_, rfl⟩ } fun few => ?_
    exact ⟨(short few).timeout, (short few).retryAttempts⟩

theorem addTransition_refuses {source target condition : Value}
    (typed : condition.Optionally Value.IsText) :
    FailsOnly (Refuses brief) (draft.addTransition source target condition) := by
  unfold Draft.addTransition
  split
  · exact FailsOnly.bind (FailsOnly.ok _) fun _ _ => FailsOnly.ok _
  · next given =>
      have text := typed.resolve_left given
      exact ((checkCondition_refuses text).map some).bind fun _ _ => FailsOnly.ok _

end Refusals

end Draft

/-! ## Delays -/

namespace Duration

theorem scaled_whole {value : Value} (whole : value.IsWhole) (factor : Int) :
    ∃ number, scaled value factor = .ok (.int number) := by
  obtain ⟨number, rfl⟩ | ⟨truth, rfl⟩ := whole
  · exact ⟨_, rfl⟩
  · exact ⟨_, rfl⟩

theorem sum_whole {value : Value} (whole : value.IsWhole) (number : Int) :
    ∃ total, sum value (.int number) = .ok (.int total) := by
  obtain ⟨own, rfl⟩ | ⟨truth, rfl⟩ := whole
  · exact ⟨_, rfl⟩
  · exact ⟨_, rfl⟩

/-- Whole numbers of seconds, minutes and hours have a whole number of seconds in all. -/
theorem total_whole {seconds minutes hours : Value} (secondsWhole : seconds.IsWhole)
    (minutesWhole : minutes.IsWhole) (hoursWhole : hours.IsWhole) :
    ∃ number, total seconds minutes hours = .ok (.int number) := by
  obtain ⟨inMinutes, scaledMinutes⟩ := scaled_whole minutesWhole 60
  obtain ⟨inHours, scaledHours⟩ := scaled_whole hoursWhole 3600
  obtain ⟨shorter, sums⟩ := sum_whole secondsWhole inMinutes
  obtain ⟨number, whole⟩ := sum_whole (.inl ⟨shorter, rfl⟩) inHours
  refine ⟨number, ?_⟩
  simp only [total, scaledMinutes, scaledHours, sums, bind, Except.bind]
  exact whole

end Duration

namespace Draft

section Calls

variable {draft : Draft} {call : BuilderCall}

theorem settle_refused {way : Failure → Prop} {changed : Except Failure Draft} {failure : Failure}
    (fails : FailsOnly way changed) (refused : refusal? (draft.settle changed).1 = some failure) :
    way failure := by
  cases changed with
  | ok => cases refused
  | error other =>
      cases refused
      exact fails _ rfl

/-- A call of the right kinds is refused with an error in a definition, unless a number of it has
more digits than are read. -/
theorem call_refuses (typedDraft : draft.Typed) (single : call.isSingle = true)
    (typed : call.Typed) {failure : Failure}
    (refused : refusal? (draft.call call).1 = some failure) : Refuses call.IsBrief failure := by
  cases call with
  | describe | setVersion => cases refused
  | addMetadata metadata =>
      obtain ⟨entries, rfl, _⟩ := typed
      cases refused
  | addStep request =>
      exact settle_refused (addStep_refuses typed fun few => few _ rfl) refused
  | append request =>
      exact settle_refused (append_refuses typed fun few => few _ rfl) refused
  | addTransition source target condition =>
      exact settle_refused (addTransition_refuses typed.2.2) refused
  | block condition calls =>
      cases calls with
      | cons => cases single
      | nil =>
          unfold Draft.call at refused
          split at refused
          · next checked =>
              cases refused
              exact checkCondition_refuses typed _ checked
          · cases refused
  | log message level id =>
      exact settle_refused (append_refuses (typed.request rfl) fun few => few _ rfl) refused
  | delay seconds minutes hours id =>
      obtain ⟨total, sums⟩ := Duration.total_whole typed.1 typed.2.1 typed.2.2.1
      have asks : (BuilderCall.delay seconds minutes hours id).request? =
          some (.ofAction id (.text "delay") (.ofFields [("seconds", .int total)])) := by
        simp [BuilderCall.request?, sums, Except.toOption]
      refine settle_refused ?_ refused
      simp only [addDelay, sums]
      refine FailsOnly.bind (FailsOnly.ok _) fun value same => ?_
      cases same
      refine FailsOnly.bind (FailsOnly.ok _) fun spent _ => ?_
      split
      · exact refuse_refuses fun _ => rfl
      · exact append_refuses (typed.request asks) fun few => few _ asks
  | http url method data headers request =>
      obtain ⟨text, rfl⟩ := typed.1
      exact settle_refused (append_refuses (typed.request rfl) fun few => few _ rfl) refused
  | condition expression onTrue onFalse id =>
      refine settle_refused ((checkCondition_refuses typed.1).bind fun text checks => ?_) refused
      cases checkCondition_eq_ok checks
      exact append_refuses (typed.request rfl) fun few => few _ rfl
  | build =>
      obtain ⟨_, definition, built⟩ | ⟨_, error, unbuilt⟩ := typedDraft.build_cases
      · simp [Draft.call, built, Except.map, refusal?] at refused
      · simp only [Draft.call, unbuilt, Except.map, refusal?, Option.some.injEq] at refused
        exact .inl ⟨error, refused.symm⟩

end Calls

end Draft

end Workflow
