import Mathlib.Data.List.Induction
import Workflow.Proofs.Growth

/-!
# What interleaved calls keep

While one call runs an instance and others cancel or pause it, the steps and the data keys of its
record only ever grow, but for one case.  No call looks whether the record is still the one that it
knows, and so one that cancels or pauses the instance writes back what it loaded, also over what
another one has saved in between.
-/

namespace Workflow

/-! ## Schedules of one run -/

/-- The call that begins at a moment. -/
def Moment.begun? : Moment → Option EngineCall
  | .begins _ call => some call
  | .turn _ _ => none

/-- One of the calls of a schedule runs an instance, the one of the given number, and all others
cancel or pause the instance with an id. -/
def OneRuns (id : String) (runs : Nat) (schedule : List Moment) : Prop :=
  ∀ number call, (schedule.filterMap Moment.begun?)[number]? = some call →
    (number = runs → call.Runs) ∧ (number ≠ runs → call.Halts id)

namespace Situation

variable {σ : Type} (records : Records σ) (id : String)

/-- What a call has left to do. -/
def rest? (situation : Situation σ) (caller : Nat) : Option (Proc (Except Failure Unit)) :=
  situation.calls[caller]?.map (·.rest)

/-- What is asked and answered at a moment, and by which call. -/
def exchange? (situation : Situation σ) : Moment → Option (Nat × Request.Answered)
  | .begins _ _ => none
  | .turn caller others =>
    match situation.rest? caller with
    | some (.ask request _) =>
      some (caller, ⟨request, (records.reply others request situation.state).1⟩)
    | _ => none

/-- All that is asked and answered along a schedule, in order. -/
def trace (situation : Situation σ) : List Moment → List (Nat × Request.Answered)
  | [] => []
  | moment :: rest =>
    (situation.exchange? records moment).toList ++ (situation.after records id moment).trace rest

variable {records id} {situation : Situation σ}

theorem play_concat (schedule : List Moment) (moment : Moment) :
    situation.play records id (schedule ++ [moment]) =
      (situation.play records id schedule).after records id moment := by
  simp [play]

theorem trace_concat (schedule : List Moment) (moment : Moment) :
    situation.trace records id (schedule ++ [moment]) =
      situation.trace records id schedule ++
        ((situation.play records id schedule).exchange? records moment).toList := by
  induction schedule generalizing situation with
  | nil => simp [trace, play]
  | cons first rest ih =>
      have later := @ih (situation.after records id first)
      simp only [List.cons_append, trace, later, List.append_assoc]
      rfl

theorem rest?_after_begins (runner : Runner) (call : EngineCall) (caller : Nat) :
    (situation.after records id (.begins runner call)).rest? caller =
      if caller = situation.calls.length then some (call.proc runner)
      else situation.rest? caller := by
  simp only [after, rest?, List.getElem?_append, List.getElem?_singleton]
  by_cases earlier : caller < situation.calls.length
  · simp [earlier, Nat.ne_of_lt earlier]
  · by_cases same : caller = situation.calls.length
    · simp [same]
    · have later : ¬ caller - situation.calls.length = 0 := by omega
      simp [earlier, same, later]

/-- What the turn of a call that has something left to ask does. -/
theorem after_turn (id : String) {caller : Nat} (others : (request : Request) → request.Answer)
    {request : Request} {next : request.Answer → Proc (Except Failure Unit)}
    (asks : situation.rest? caller = some (.ask request next)) :
    let reply := records.reply others request situation.state
    let after := situation.after records id (.turn caller others)
    after.state = reply.2 ∧ after.calls.length = situation.calls.length ∧
      (∀ other, after.rest? other =
        if other = caller then some (next reply.1) else situation.rest? other) ∧
      situation.exchange? records (.turn caller others) = some (caller, ⟨request, reply.1⟩) := by
  intro reply after
  rcases Option.map_eq_some_iff.mp asks with ⟨⟨rest, overtaken⟩, found, same⟩
  cases same
  have inside : caller < situation.calls.length := (List.getElem?_eq_some_iff.mp found).1
  have changes : after = ⟨reply.2, (situation.calls.map fun call =>
      { call with overtaken := call.overtaken || alters id request }).set caller
        ⟨next reply.1, overtaken && !settles id request reply.1⟩⟩ := by
    simp only [after, Situation.after, found]
    rfl
  rw [changes]
  refine ⟨rfl, by simp, fun other => ?_, ?_⟩
  · simp only [rest?, List.getElem?_set, List.length_map, List.getElem?_map]
    by_cases same : other = caller
    · simp [same, inside]
    · simp [same, Ne.symm same, Function.comp_def]
  · simp only [exchange?, asks]
    rfl

/-- The turn of a call that has nothing left to ask does nothing. -/
theorem after_turn_idle (id : String) {caller : Nat} (others : (request : Request) → request.Answer)
    (idle : ∀ request next, situation.rest? caller ≠ some (.ask request next)) :
    situation.after records id (.turn caller others) = situation ∧
      situation.exchange? records (.turn caller others) = none := by
  constructor
  · simp only [after]
    split
    · next request next overtaken found =>
        exact absurd (by simp [rest?, found]) (idle request next)
    · rfl
  · cases left : situation.rest? caller with
    | none => simp only [exchange?, left]
    | some rest =>
        cases rest with
        | done value => simp only [exchange?, left]
        | ask request next => exact absurd left (idle request next)

end Situation

/-! ## What calls remember -/

/-- The record of an id has the work of an instance. -/
def Records.HasWork {σ : Type} (records : Records σ) (id : String) (state : σ) (inst : Instance) :
    Prop :=
  ∃ stored, records.record? state id = some stored ∧ stored.SameWork inst

/-- A call has loaded an instance, and another one has saved under the id since. -/
def Overtaken (id : String) (trace : List (Nat × Request.Answered)) (caller : Nat)
    (loaded : Instance) : Prop :=
  ∃ before between, trace = before ++ (caller, ⟨.load id, .ok loaded⟩) :: between ∧
    ∃ other saved kept, other ≠ caller ∧ saved.id = id ∧
      (other, (⟨.save saved, kept⟩ : Request.Answered)) ∈ between

namespace Basis

/-- What is known of the record of an id is so. -/
def Fits {σ : Type} (records : Records σ) (id : String) (state : σ) : Basis → Prop
  | .unknown => True
  | .absent => records.record? state id = none
  | .work inst => ∃ stored, records.record? state id = some stored ∧ inst.Extends stored

/-- What was loaded by others is not ahead of what is known. -/
def Covers {σ : Type} (records : Records σ) (id : String) (state : σ) (loaded : Instance) :
    Basis → Prop
  | .unknown => records.HasWork id state loaded
  | .absent => False
  | .work inst => inst.Extends loaded

end Basis

/-- What holds of an instance that a call has loaded: the run is not behind it, and the record has
its work unless another call has saved since. -/
structure Remembers {σ : Type} (records : Records σ) (id : String) (state : σ)
    (trace : List (Nat × Request.Answered)) (basis : Basis) (caller : Nat) (loaded : Instance) :
    Prop where
  covered : basis.Covers records id state loaded
  current : (caller, (⟨.load id, .ok loaded⟩ : Request.Answered)) ∈ trace ∧
      records.HasWork id state loaded ∨ Overtaken id trace caller loaded

/-- What holds of a situation in which one call runs an instance and others cancel or pause it. -/
structure Situation.Retains {σ : Type} (records : Records σ) (id : String) (runs : Nat)
    (situation : Situation σ) (trace : List (Nat × Request.Answered)) (basis : Basis) : Prop where
  unbegun : situation.calls.length ≤ runs → basis = .unknown
  fits : basis.Fits records id situation.state
  running : ∀ rest, situation.rest? runs = some rest → rest.Grows id basis
  halting : ∀ caller rest, caller ≠ runs → situation.rest? caller = some rest →
    ∃ seen, rest.Copies id seen ∧ ∀ loaded, seen = some loaded →
      Remembers records id situation.state trace basis caller loaded

section Retaining

variable {σ : Type} {records : Records σ} {id : String} {runs : Nat} {situation : Situation σ}
variable {trace : List (Nat × Request.Answered)} {basis : Basis}

theorem Overtaken.append {caller : Nat} {loaded : Instance}
    {more : List (Nat × Request.Answered)} (overtaken : Overtaken id trace caller loaded) :
    Overtaken id (trace ++ more) caller loaded := by
  rcases overtaken with ⟨before, between, rfl, other, saved, kept, different, same, member⟩
  exact ⟨before, between ++ more, by simp, other, saved, kept, different, same,
    List.mem_append_left _ member⟩

/-- A call is overtaken by a save of another one. -/
theorem overtaken_of_mem {caller other : Nat} {loaded saved : Instance} {kept : Except Failure Unit}
    (member : (caller, (⟨.load id, .ok loaded⟩ : Request.Answered)) ∈ trace)
    (different : other ≠ caller) (same : saved.id = id) :
    Overtaken id (trace ++ [(other, ⟨.save saved, kept⟩)]) caller loaded := by
  rcases List.append_of_mem member with ⟨before, between, rfl⟩
  exact ⟨before, between ++ [(other, ⟨.save saved, kept⟩)], by simp, other, saved, kept, different,
    same, by simp⟩

/-- Nothing that is remembered changes while the record stays as it is and nobody learns of it. -/
theorem Remembers.keeps {caller : Nat} {loaded : Instance} {state after : σ}
    {more : List (Nat × Request.Answered)}
    (remembers : Remembers records id state trace basis caller loaded)
    (same : records.record? after id = records.record? state id) :
    Remembers records id after (trace ++ more) basis caller loaded := by
  have work : records.HasWork id after loaded ↔ records.HasWork id state loaded := by
    rw [Records.HasWork, Records.HasWork, same]
  refine ⟨?_, ?_⟩
  · have covered := remembers.covered
    cases basis with
    | unknown => exact work.mpr covered
    | absent | work => exact covered
  · rcases remembers.current with ⟨member, current⟩ | overtaken
    · exact .inl ⟨List.mem_append_left _ member, work.mpr current⟩
    · exact .inr overtaken.append

theorem Basis.Fits.keeps {state after : σ} (fits : basis.Fits records id state)
    (same : records.record? after id = records.record? state id) :
    basis.Fits records id after := by
  cases basis with
  | unknown => trivial
  | absent => exact same.trans fits
  | work inst =>
      rcases fits with ⟨stored, held, grown⟩
      exact ⟨stored, same.trans held, grown⟩

/-! ## Turns of the run -/

variable {others : (request : Request) → request.Answer} {request : Request} {state : σ}

theorem Basis.admits_reply : Basis.Admits request (records.reply others request state).1 := by
  cases request with
  | save inst => rfl
  | load loaded => exact fun stored found => records.id_of_record? (records.load_eq_ok.mp found)
  | _ => trivial

/-- Only a save changes the record of an id when a basis allows it. -/
theorem Basis.Allows.save_or_keeps (allows : basis.Allows id request) :
    (∃ inst, request = .save inst ∧ inst.id = id ∧ basis.Precedes inst) ∨
      alters id request = false := by
  cases altering : alters id request with
  | false => exact .inr rfl
  | true =>
      rcases allows altering with ⟨inst, rfl, precedes⟩
      exact .inl ⟨inst, rfl, eq_of_beq altering, precedes⟩

/-- What a run learns of the record without changing it. -/
theorem Basis.learn_of_unaltered (basis : Basis) (records : Records σ)
    (others : (request : Request) → request.Answer) (state : σ)
    (unaltered : alters id request = false) :
    let basis' := basis.learn id request (records.reply others request state).1
    basis' = basis ∨ basis = .unknown ∧
      ((∃ stored, basis' = .work stored ∧ records.record? state id = some stored) ∨
        basis' = .absent ∧ records.record? state id = none) := by
  cases request with
  | save inst =>
      refine .inl (if_neg fun same => ?_)
      simp [alters, same] at unaltered
  | load loaded =>
      simp only [Records.reply, Records.load]
      cases held : records.record? state loaded with
      | none => exact .inl (by cases basis <;> rfl)
      | some stored =>
          cases basis with
          | unknown =>
              by_cases same : loaded = id
              · exact .inr ⟨rfl, .inl ⟨stored, if_pos same, same ▸ held⟩⟩
              · exact .inl (if_neg same)
          | absent | work => exact .inl rfl
  | contains asked =>
      simp only [Records.reply]
      cases held : records.record? state asked with
      | some stored => exact .inl (by cases basis <;> rfl)
      | none =>
          cases basis with
          | unknown =>
              by_cases same : asked = id
              · exact .inr ⟨rfl, .inr ⟨if_pos same, same ▸ held⟩⟩
              · exact .inl (if_neg same)
          | absent | work => exact .inl rfl
  | _ => exact .inl (by cases basis <;> rfl)

theorem Basis.Fits.learn (fits : basis.Fits records id state) (allows : basis.Allows id request) :
    (basis.learn id request (records.reply others request state).1).Fits records id
      (records.reply others request state).2 := by
  rcases allows.save_or_keeps with ⟨inst, rfl, same, _⟩ | unaltered
  · have learns : basis.learn id (.save inst) (records.reply others (.save inst) state).1 =
        .work inst := if_pos same
    rw [learns]
    exact ⟨inst, (records.record?_save state inst id).trans (if_pos same), .refl inst⟩
  · have kept : records.record? (records.reply others request state).2 id =
        records.record? state id := record?_reply unaltered
    rcases basis.learn_of_unaltered records others state unaltered with
      same | ⟨_, ⟨stored, learns, held⟩ | ⟨learns, held⟩⟩
    · rw [same]
      exact fits.keeps kept
    · rw [learns]
      exact ⟨stored, kept.trans held, .refl stored⟩
    · rw [learns]
      exact kept.trans held

/-- What others remember when the run asks for something. -/
theorem Remembers.learn {caller : Nat} {loaded : Instance} (different : runs ≠ caller)
    (remembers : Remembers records id state trace basis caller loaded)
    (allows : basis.Allows id request) :
    Remembers records id (records.reply others request state).2
      (trace ++ [(runs, ⟨request, (records.reply others request state).1⟩)])
      (basis.learn id request (records.reply others request state).1) caller loaded := by
  rcases allows.save_or_keeps with ⟨inst, rfl, same, precedes⟩ | unaltered
  · have learns : basis.learn id (.save inst) (records.reply others (.save inst) state).1 =
        .work inst := if_pos same
    rw [learns]
    refine ⟨?_, .inr ?_⟩
    · have covered := remembers.covered
      cases basis with
      | unknown => exact precedes.elim
      | absent => exact covered.elim
      | work earlier => exact precedes.trans covered
    · rcases remembers.current with ⟨member, _⟩ | overtaken
      · exact overtaken_of_mem member different same
      · exact overtaken.append
  · have kept : records.record? (records.reply others request state).2 id =
        records.record? state id := record?_reply unaltered
    have onward : Remembers records id _
        (trace ++ [(runs, ⟨request, (records.reply others request state).1⟩)]) basis caller
        loaded :=
      remembers.keeps kept
    rcases basis.learn_of_unaltered records others state unaltered with
      same | ⟨rfl, ⟨stored, learns, held⟩ | ⟨learns, held⟩⟩
    · rw [same]
      exact onward
    · rw [learns]
      rcases remembers.covered with ⟨other, found, work⟩
      cases held.symm.trans found
      exact ⟨work.extends, onward.current⟩
    · rcases remembers.covered with ⟨other, found, work⟩
      cases held.symm.trans found

/-- A turn of the run. -/
theorem Situation.Retains.turn_run {next : request.Answer → Proc (Except Failure Unit)}
    (retains : situation.Retains records id runs trace basis)
    (asks : situation.rest? runs = some (.ask request next)) :
    let answer := (records.reply others request situation.state).1
    (situation.after records id (.turn runs others)).Retains records id runs
      (trace ++ [(runs, ⟨request, answer⟩)]) (basis.learn id request answer) := by
  intro answer
  rcases situation.after_turn id others asks with ⟨sameState, sameLength, rests, _⟩
  have grows := retains.running _ asks
  refine ⟨fun early => ?_, ?_, fun rest left => ?_, fun caller rest different left => ?_⟩
  · -- a call that has a turn has begun
    rw [sameLength] at early
    have outside : situation.rest? runs = none := by
      simp [Situation.rest?, List.getElem?_eq_none early]
    rw [outside] at asks
    cases asks
  · rw [sameState]
    exact retains.fits.learn grows.1
  · rw [rests, if_pos rfl] at left
    cases left
    exact grows.2 _ _ ⟨Basis.admits_reply, rfl⟩
  · rw [rests, if_neg different] at left
    rcases retains.halting caller rest different left with ⟨seen, copies, remembers⟩
    refine ⟨seen, copies, fun loaded known => ?_⟩
    rw [sameState]
    exact (remembers loaded known).learn different.symm grows.1

/-! ## Turns of the others -/

/-- What changes the record of an id saves the work that is remembered, or nothing does. -/
theorem Request.Copies.save_or_keeps {seen : Option Instance} (copies : request.Copies id seen) :
    (∃ inst loaded, request = .save inst ∧ inst.id = id ∧ seen = some loaded ∧
        inst.SameWork loaded) ∨ alters id request = false := by
  cases altering : alters id request with
  | false => exact .inr rfl
  | true =>
      rcases copies altering with ⟨inst, loaded, rfl, known, same⟩
      exact .inl ⟨inst, loaded, rfl, eq_of_beq altering, known, same⟩

theorem Basis.Fits.copy {seen : Option Instance} (fits : basis.Fits records id state)
    (copies : request.Copies id seen)
    (covers : ∀ loaded, seen = some loaded → basis.Covers records id state loaded) :
    basis.Fits records id (records.reply others request state).2 := by
  rcases copies.save_or_keeps with ⟨inst, loaded, rfl, same, known, work⟩ | unaltered
  · have covered := covers loaded known
    cases basis with
    | unknown => trivial
    | absent => exact covered.elim
    | work earlier =>
        refine ⟨inst, (records.record?_save state inst id).trans (if_pos same), ?_⟩
        exact covered.trans work.symm.extends
  · exact fits.keeps (record?_reply unaltered)

/-- What a call remembers when another one that copies asks for something. -/
theorem Remembers.copy {caller other : Nat} {loaded : Instance} {seen : Option Instance}
    (different : other ≠ caller)
    (remembers : Remembers records id state trace basis caller loaded)
    (copies : request.Copies id seen)
    (covers : ∀ loaded, seen = some loaded → basis.Covers records id state loaded) :
    Remembers records id (records.reply others request state).2
      (trace ++ [(other, ⟨request, (records.reply others request state).1⟩)]) basis caller
      loaded := by
  rcases copies.save_or_keeps with ⟨inst, copied, rfl, same, known, work⟩ | unaltered
  · refine ⟨?_, .inr ?_⟩
    · have covered := remembers.covered
      cases basis with
      | unknown =>
          -- nobody but such calls has saved yet, so all that was loaded is the same work
          rcases covered with ⟨stored, held, sameWork⟩
          rcases covers copied known with ⟨_, found, copiedWork⟩
          cases held.symm.trans found
          refine ⟨inst, (records.record?_save state inst id).trans (if_pos same), ?_⟩
          exact work.trans (copiedWork.symm.trans sameWork)
      | absent | work => exact covered
    · rcases remembers.current with ⟨member, _⟩ | overtaken
      · exact overtaken_of_mem member different same
      · exact overtaken.append
  · exact remembers.keeps (record?_reply unaltered)

/-- What a call remembers when it has saved what it remembers. -/
theorem Remembers.save {caller : Nat} {loaded inst : Instance}
    {more : List (Nat × Request.Answered)}
    (remembers : Remembers records id state trace basis caller loaded) (same : inst.id = id)
    (work : inst.SameWork loaded) :
    Remembers records id (records.save state inst) (trace ++ more) basis caller loaded := by
  have holds : records.HasWork id (records.save state inst) loaded :=
    ⟨inst, (records.record?_save state inst id).trans (if_pos same), work⟩
  refine ⟨?_, ?_⟩
  · have covered := remembers.covered
    cases basis with
    | unknown => exact holds
    | absent | work => exact covered
  · rcases remembers.current with ⟨member, _⟩ | overtaken
    · exact .inl ⟨List.mem_append_left _ member, holds⟩
    · exact .inr overtaken.append

/-- What a call remembers when it has just loaded the record. -/
theorem remembers_load {caller : Nat} {loaded : Instance} (fits : basis.Fits records id state)
    (held : records.record? state id = some loaded) :
    Remembers records id state (trace ++ [(caller, ⟨.load id, .ok loaded⟩)]) basis caller
      loaded := by
  have holds : records.HasWork id state loaded := ⟨loaded, held, .refl loaded⟩
  refine ⟨?_, .inl ⟨by simp, holds⟩⟩
  cases basis with
  | unknown => exact holds
  | absent => cases held.symm.trans fits
  | work inst =>
      rcases fits with ⟨stored, found, grown⟩
      cases held.symm.trans found
      exact grown

/-- What a call that copies remembers after its own turn. -/
theorem remembers_turn (others : (request : Request) → request.Answer) {caller : Nat}
    {seen : Option Instance}
    (fits : basis.Fits records id state) (copies : request.Copies id seen)
    (remembers : ∀ loaded, seen = some loaded →
      Remembers records id state trace basis caller loaded) :
    ∃ seen', copyWorld id request seen (records.reply others request state).1 seen' ∧
      ∀ loaded, seen' = some loaded → Remembers records id (records.reply others request state).2
        (trace ++ [(caller, ⟨request, (records.reply others request state).1⟩)]) basis caller
        loaded := by
  rcases copies.save_or_keeps with ⟨inst, copied, rfl, same, known, work⟩ | unaltered
  · refine ⟨seen, rfl, fun loaded seeing => ?_⟩
    cases known.symm.trans seeing
    exact (remembers copied known).save same work
  · have onward : ∀ loaded, seen = some loaded →
        Remembers records id (records.reply others request state).2
          (trace ++ [(caller, ⟨request, (records.reply others request state).1⟩)]) basis caller
          loaded :=
      fun loaded known => (remembers loaded known).keeps (record?_reply unaltered)
    cases request with
    | load asked =>
        have admits : ∀ stored, records.load state asked = .ok stored → stored.id = asked :=
          fun stored found => records.id_of_record? (records.load_eq_ok.mp found)
        refine ⟨_, ⟨admits, rfl⟩, fun loaded known => ?_⟩
        by_cases same : asked = id
        · subst same
          rw [if_pos rfl] at known
          have found : records.load state asked = .ok loaded := by
            cases answer : records.load state asked with
            | error failure =>
                simp only [Records.reply, answer] at known
                cases known
            | ok stored =>
                simp only [Records.reply, answer] at known
                cases known
                rfl
          simp only [Records.reply, found]
          exact remembers_load fits (records.load_eq_ok.mp found)
        · rw [if_neg same] at known
          exact onward loaded known
    | _ => exact ⟨seen, rfl, onward⟩

/-- A turn of a call that cancels or pauses the instance. -/
theorem Situation.Retains.turn_other {caller : Nat}
    {next : request.Answer → Proc (Except Failure Unit)} (different : caller ≠ runs)
    (retains : situation.Retains records id runs trace basis)
    (asks : situation.rest? caller = some (.ask request next)) :
    (situation.after records id (.turn caller others)).Retains records id runs
      (trace ++ [(caller, ⟨request, (records.reply others request situation.state).1⟩)]) basis := by
  rcases situation.after_turn id others asks with ⟨sameState, sameLength, rests, _⟩
  rcases retains.halting caller _ different asks with ⟨seen, copies, remembers⟩
  have covers : ∀ loaded, seen = some loaded →
      basis.Covers records id situation.state loaded :=
    fun loaded known => (remembers loaded known).covered
  refine ⟨fun early => ?_, ?_, fun rest left => ?_, fun other rest apart left => ?_⟩
  · rw [sameLength] at early
    exact retains.unbegun early
  · rw [sameState]
    exact retains.fits.copy copies.1 covers
  · rw [rests, if_neg different.symm] at left
    exact retains.running rest left
  · rw [rests] at left
    rw [sameState]
    by_cases same : other = caller
    · subst same
      rw [if_pos rfl] at left
      cases left
      rcases remembers_turn others retains.fits copies.1 remembers with
        ⟨seen', answered, remembers⟩
      exact ⟨seen', copies.2 _ _ answered, remembers⟩
    · rw [if_neg same] at left
      rcases retains.halting other rest apart left with ⟨seen', copies', remembers'⟩
      exact ⟨seen', copies', fun loaded known =>
        (remembers' loaded known).copy (Ne.symm same) copies.1 covers⟩

/-! ## Moments -/

/-- A call begins. -/
theorem Situation.Retains.begins (runner : Runner) {call : EngineCall}
    (retains : situation.Retains records id runs trace basis)
    (one : (situation.calls.length = runs → call.Runs) ∧
      (situation.calls.length ≠ runs → call.Halts id)) :
    (situation.after records id (.begins runner call)).Retains records id runs trace basis := by
  have rests : ∀ caller, (situation.after records id (.begins runner call)).rest? caller =
      if caller = situation.calls.length then some (call.proc runner)
      else situation.rest? caller :=
    situation.rest?_after_begins runner call
  refine ⟨fun early => ?_, retains.fits, fun rest left => ?_, fun caller rest different left => ?_⟩
  · apply retains.unbegun
    simp only [after, List.length_append, List.length_singleton] at early
    omega
  · rw [rests] at left
    by_cases same : runs = situation.calls.length
    · rw [if_pos same] at left
      cases left
      rw [retains.unbegun (Nat.le_of_eq same.symm)]
      exact EngineCall.proc_grows (one.1 same.symm)
    · rw [if_neg same] at left
      exact retains.running rest left
  · rw [rests] at left
    by_cases same : caller = situation.calls.length
    · rw [if_pos same] at left
      cases left
      have halts := one.2 fun here => different (same.trans here)
      exact ⟨none, EngineCall.proc_copies halts, by simp⟩
    · rw [if_neg same] at left
      exact retains.halting caller rest different left

/-- A moment leads from a situation that retains to one that does. -/
theorem Situation.Retains.after {moment : Moment}
    (retains : situation.Retains records id runs trace basis)
    (one : ∀ call, moment.begun? = some call → (situation.calls.length = runs → call.Runs) ∧
      (situation.calls.length ≠ runs → call.Halts id)) :
    ∃ basis', (situation.after records id moment).Retains records id runs
      (trace ++ (situation.exchange? records moment).toList) basis' := by
  cases moment with
  | begins runner call =>
      refine ⟨basis, ?_⟩
      simpa [exchange?] using retains.begins runner (one call rfl)
  | turn caller others =>
      by_cases asking : ∃ request next, situation.rest? caller = some (.ask request next)
      · rcases asking with ⟨request, next, asks⟩
        rw [(situation.after_turn id others asks).2.2.2]
        by_cases same : caller = runs
        · subst same
          exact ⟨_, retains.turn_run asks⟩
        · exact ⟨basis, retains.turn_other same asks⟩
      · have idle : ∀ request next, situation.rest? caller ≠ some (.ask request next) :=
          fun request next asks => asking ⟨request, next, asks⟩
        rcases situation.after_turn_idle id others idle with ⟨unchanged, silent⟩
        rw [unchanged, silent, Option.toList_none, List.append_nil]
        exact ⟨basis, retains⟩

theorem length_calls_play (start : σ) (schedule : List Moment) :
    (Situation.play records id ⟨start, []⟩ schedule).calls.length =
      (schedule.filterMap Moment.begun?).length := by
  induction schedule using List.reverseRecOn with
  | nil => rfl
  | append_singleton earlier moment ih =>
      rw [Situation.play_concat, List.filterMap_append, List.length_append, ← ih]
      generalize Situation.play records id ⟨start, []⟩ earlier = situation
      cases moment with
      | begins runner call => simp [Situation.after, Moment.begun?]
      | turn caller others =>
          simp only [Situation.after]
          split <;> simp [Moment.begun?]

theorem OneRuns.of_append {schedule later : List Moment}
    (one : OneRuns id runs (schedule ++ later)) : OneRuns id runs schedule := by
  intro number call begun
  apply one number call
  have inside := (List.getElem?_eq_some_iff.mp begun).1
  rw [List.filterMap_append, List.getElem?_append_left inside]
  exact begun

/-- Every situation in which one call runs an instance and others cancel or pause it retains. -/
theorem retains_play (records : Records σ) (start : σ) {schedule : List Moment}
    (one : OneRuns id runs schedule) :
    ∃ basis, (Situation.play records id ⟨start, []⟩ schedule).Retains records id runs
      (Situation.trace records id ⟨start, []⟩ schedule) basis := by
  induction schedule using List.reverseRecOn with
  | nil => exact ⟨.unknown, fun _ => rfl, trivial, by simp [Situation.rest?, Situation.play],
      by simp [Situation.rest?, Situation.play]⟩
  | append_singleton earlier moment ih =>
      rcases ih one.of_append with ⟨basis, retains⟩
      rw [Situation.play_concat, Situation.trace_concat]
      refine retains.after fun call begins => ?_
      apply one
      rw [length_calls_play, List.filterMap_append]
      simp [begins]

/-- What a turn of a call saves goes on from the record, unless the call was overtaken. -/
theorem Situation.Retains.saved {caller : Nat} {stored : Instance}
    {next : request.Answer → Proc (Except Failure Unit)}
    (retains : situation.Retains records id runs trace basis)
    (asks : situation.rest? caller = some (.ask request next))
    (held : records.record? situation.state id = some stored)
    (altering : alters id request = true) :
    ∃ inst, request = .save inst ∧ inst.id = id ∧
      (caller = runs ∧ inst.Extends stored ∨
        caller ≠ runs ∧ (inst.SameWork stored ∨
          ∃ loaded, inst.SameWork loaded ∧ Overtaken id trace caller loaded)) := by
  by_cases same : caller = runs
  · subst same
    rcases (retains.running _ asks).1.save_or_keeps with
      ⟨inst, rfl, sameId, precedes⟩ | unaltered
    · refine ⟨inst, rfl, sameId, .inl ⟨rfl, ?_⟩⟩
      have fits := retains.fits
      cases basis with
      | unknown => exact precedes.elim
      | absent => cases held.symm.trans fits
      | work earlier =>
          rcases fits with ⟨found, same, grown⟩
          cases held.symm.trans same
          exact precedes.trans grown
    · rw [altering] at unaltered
      cases unaltered
  · rcases retains.halting caller _ same asks with ⟨seen, copies, remembers⟩
    rcases copies.1.save_or_keeps with ⟨inst, loaded, rfl, sameId, known, work⟩ | unaltered
    · refine ⟨inst, rfl, sameId, .inr ⟨same, ?_⟩⟩
      rcases (remembers loaded known).current with ⟨_, found, same, current⟩ | overtaken
      · cases held.symm.trans same
        exact .inl (work.trans current.symm)
      · exact .inr ⟨loaded, work, overtaken⟩
    · rw [altering] at unaltered
      cases unaltered

/-- While one call runs an instance and others cancel or pause it, however they are interleaved, the
record stays, and from each moment to the next nothing is taken from its completed and skipped
steps and its data keys; what the run saves extends it, and what the others save has the same work.
The one exception is a call that cancels or pauses the instance after another call has saved it
since it was loaded: that one writes back the work that it has loaded. -/
theorem record_retained (records : Records σ) (start : σ) {schedule : List Moment} {moment : Moment}
    {stored : Instance} (one : OneRuns id runs (schedule ++ [moment]))
    (held : records.record? (Situation.play records id ⟨start, []⟩ schedule).state id =
      some stored) :
    ∃ next,
      records.record? (Situation.play records id ⟨start, []⟩ (schedule ++ [moment])).state id =
        some next ∧
      (next = stored ∨
        ∃ caller, (Situation.play records id ⟨start, []⟩ schedule).exchange? records moment =
            some (caller, ⟨.save next, .ok ()⟩) ∧
          (caller = runs ∧ next.Extends stored ∨
            caller ≠ runs ∧
              (next.SameWork stored ∨
                ∃ loaded, next.SameWork loaded ∧
                  Overtaken id (Situation.trace records id ⟨start, []⟩ schedule) caller
                    loaded))) := by
  rcases retains_play records start one.of_append with ⟨basis, retains⟩
  rw [Situation.play_concat]
  generalize Situation.trace records id ⟨start, []⟩ schedule = trace at *
  generalize Situation.play records id ⟨start, []⟩ schedule = situation at *
  cases moment with
  | begins runner call => exact ⟨stored, held, .inl rfl⟩
  | turn caller others =>
      by_cases asking : ∃ request next, situation.rest? caller = some (.ask request next)
      · rcases asking with ⟨request, next, asks⟩
        rcases situation.after_turn id others asks with ⟨sameState, _, _, exchanges⟩
        rw [sameState]
        cases altering : alters id request with
        | false => exact ⟨stored, (record?_reply altering).trans held, .inl rfl⟩
        | true =>
            rcases retains.saved asks held altering with ⟨inst, rfl, same, goesOn⟩
            exact ⟨inst, (records.record?_save _ inst id).trans (if_pos same),
              .inr ⟨caller, exchanges, goesOn⟩⟩
      · have idle : ∀ request next, situation.rest? caller ≠ some (.ask request next) :=
          fun request next asks => asking ⟨request, next, asks⟩
        rw [(situation.after_turn_idle id others idle).1]
        exact ⟨stored, held, .inl rfl⟩

end Retaining

/-! ## A pause that comes late -/

/-- A call that pauses the instance has loaded it while the run performs its action; then the run
completes. -/
def pausedLate : List Moment :=
  let succeeding := (Reply.result (.succeed [])).everywhere
  let source := Definition.Source.document Definition.reversibleDocument
  .begins .plain (.start (some "w") source .null) :: List.replicate 10 (.turn 0 succeeding) ++
    .begins .plain (.pause "w") :: .turn 1 succeeding :: List.replicate 5 (.turn 0 succeeding)

/-- The turn in which the call saves what it has loaded. -/
def pauses : Moment :=
  .turn 1 (Reply.result (.succeed [])).everywhere

theorem oneRuns_pausedLate : OneRuns "w" 0 (pausedLate ++ [pauses]) := by
  have calls : (pausedLate ++ [pauses]).filterMap Moment.begun? =
      [.start (some "w") (.document Definition.reversibleDocument) .null, .pause "w"] := rfl
  intro number call begun
  rw [calls] at begun
  match number with
  | 0 =>
      cases begun
      exact ⟨fun _ => trivial, fun other => absurd rfl other⟩
  | 1 =>
      cases begun
      exact ⟨fun other => (by cases other), fun _ => rfl⟩
  | number + 2 => cases begun

theorem pausedLate_restores :
    ∃ stored next,
      MemoryStore.records.record? (Situation.play MemoryStore.records "w" ⟨.empty, []⟩
        pausedLate).state "w" = some stored ∧
      MemoryStore.records.record? (Situation.play MemoryStore.records "w" ⟨.empty, []⟩
        (pausedLate ++ [pauses])).state "w" = some next ∧
      stored.completed = [.text "only"] ∧ next.completed = [] := by
  have completed :
      (MemoryStore.records.record? (Situation.play MemoryStore.records "w" ⟨.empty, []⟩
          pausedLate).state "w").map (·.completed) = some [.text "only"] ∧
        (MemoryStore.records.record? (Situation.play MemoryStore.records "w" ⟨.empty, []⟩
          (pausedLate ++ [pauses])).state "w").map (·.completed) = some [] := by
    decide +kernel
  rcases Option.map_eq_some_iff.mp completed.1 with ⟨stored, held, before⟩
  rcases Option.map_eq_some_iff.mp completed.2 with ⟨next, holds, after⟩
  exact ⟨stored, next, held, holds, before, after⟩

theorem not_extends_of_completed {next stored : Instance}
    (before : stored.completed = [.text "only"]) (after : next.completed = []) :
    ¬ next.Extends stored := by
  intro growing
  have first := growing.completed
  rw [before, after] at first
  exact absurd first (by decide)

theorem record_retained_pausedLate :
    ∃ stored next caller loaded, OneRuns "w" 0 (pausedLate ++ [pauses]) ∧
      MemoryStore.records.record? (Situation.play MemoryStore.records "w" ⟨.empty, []⟩
        pausedLate).state "w" = some stored ∧
      MemoryStore.records.record? (Situation.play MemoryStore.records "w" ⟨.empty, []⟩
        (pausedLate ++ [pauses])).state "w" = some next ∧
      caller ≠ 0 ∧ next.SameWork loaded ∧ Overtaken "w"
        (Situation.trace MemoryStore.records "w" ⟨.empty, []⟩ pausedLate) caller loaded := by
  rcases pausedLate_restores with ⟨stored, next, held, holds, before, after⟩
  have shrinks := not_extends_of_completed before after
  rcases record_retained MemoryStore.records .empty oneRuns_pausedLate held with
    ⟨last, found, goesOn⟩
  cases holds.symm.trans found
  rcases goesOn with rfl |
    ⟨caller, _, ⟨_, growing⟩ | ⟨other, same | ⟨loaded, work, overtaken⟩⟩⟩
  · exact absurd (.refl next) shrinks
  · exact absurd growing shrinks
  · exact absurd same.extends shrinks
  · exact ⟨stored, next, caller, loaded, oneRuns_pausedLate, held, holds, other, work, overtaken⟩

/-- A record does not only grow while one call runs an instance and another one pauses it. -/
theorem not_retained :
    ¬ ∀ (schedule : List Moment) (moment : Moment) (stored next : Instance),
      OneRuns "w" 0 (schedule ++ [moment]) →
      MemoryStore.records.record? (Situation.play MemoryStore.records "w" ⟨.empty, []⟩
        schedule).state "w" = some stored →
      MemoryStore.records.record? (Situation.play MemoryStore.records "w" ⟨.empty, []⟩
        (schedule ++ [moment])).state "w" = some next →
      stored.completed <+: next.completed := by
  intro retains
  rcases pausedLate_restores with ⟨stored, next, held, holds, before, after⟩
  have first := retains pausedLate pauses stored next oneRuns_pausedLate held holds
  rw [before, after] at first
  exact absurd first (by decide)

end Workflow
