import Workflow.Proofs.Steadiness

/-!
# Steps that a run comes back to

A transition is followed whatever the run has processed before; only when a run falls back on the
order of declaration does it look for a step that it has not processed.  From such a step the
transitions may lead it back.  So where the transitions make up no cycle, a run that comes to a
step again has fallen back in between, and where the possible fallbacks close no cycle either, it
processes every step once.
-/

namespace Workflow

open Proc Relation

/-! ## Where steps may lead -/

namespace Definition

/-- A transition leads from one step to another. -/
def Connects (definition : Definition) (source target : String) : Prop :=
  ∃ transition ∈ definition.transitions, transition.source = source ∧ transition.target = target

/-- A run may fall back from one step to another: every transition that leaves the first one has a
condition, and there are some, and the second one is declared after it. -/
def MayFall (definition : Definition) (source target : String) : Prop :=
  definition.outgoing source ≠ [] ∧
    (∀ transition ∈ definition.outgoing source, transition.condition.isSome = true) ∧
    ∃ step ∈ definition.stepsAfter source, step.id = target

/-- A run may go from one step to another. -/
def MayLead (definition : Definition) (source target : String) : Prop :=
  definition.Connects source target ∨ definition.MayFall source target

end Definition

/-- No transition that leaves the step under a key fires, though there are some. -/
def Instance.FallsBack (inst : Instance) (key : String) : Prop :=
  inst.definition.outgoing key ≠ [] ∧
    ∀ transition ∈ inst.definition.outgoing key, transition.Declines inst.data

/-- A run tells that it falls back on the order of declaration. -/
def Request.Answered.FallsBack (exchange : Request.Answered) : Prop :=
  ∃ key next : String,
    exchange.request = .log ⟨.debug, s!"No transition from {key} fired; falling back to {next}"⟩

section Leading

variable {inst : Instance} {key next : String}

theorem Transition.Declines.isSome {transition : Transition} {data : Dict}
    (declines : transition.Declines data) : transition.condition.isSome = true := by
  unfold Declines at declines
  split at declines
  · exact declines.elim
  · next condition given => rw [given, Option.isSome_some]

theorem connects_of_mem_outgoing {definition : Definition} {transition : Transition}
    (member : transition ∈ definition.outgoing key) :
    definition.Connects key transition.target := by
  rcases List.mem_filter.mp member with ⟨inside, leaves⟩
  exact ⟨transition, inside, eq_of_beq leaves, rfl⟩

/-- A step leads along a transition, or where the run may fall back to. -/
theorem Instance.Leads.connects_or_falls (leads : inst.Leads key (some next)) :
    inst.definition.Connects key next ∨
      inst.FallsBack key ∧ inst.definition.MayFall key next := by
  cases leads with
  | fires split _ _ =>
      refine .inl (connects_of_mem_outgoing ?_)
      rw [split]
      simp
  | falls leaves declines split _ _ =>
      refine .inr ⟨⟨leaves, declines⟩, leaves, fun transition member => ?_, _, ?_, rfl⟩
      · exact (declines transition member).isSome
      · rw [split]
        simp

theorem Instance.Leads.mayLead (leads : inst.Leads key (some next)) :
    inst.definition.MayLead key next :=
  leads.connects_or_falls.imp_right And.right

/-- A run goes on along a transition, or tells that it falls back. -/
theorem selectNext_connects {σ : Type} {world : World σ} {state final : σ}
    {choice : List Request.Answered}
    (chooses : Ends world (selectNext inst key) state choice (.ok (some next)) final) :
    inst.definition.Connects key next ∨ ∃ told ∈ choice, told.FallsBack := by
  rcases (chosenStep_eq_ok.mp (selectNext_ends chooses).2.symm).connects_or_falls with
    connects | ⟨⟨leaves, declines⟩, _⟩
  · exact .inl connects
  · -- no transition fires, so the run has gone on to the log line
    have selects := selectTransition_eq_none.mpr declines
    simp only [selectNext, List.isEmpty_iff, leaves, selects, ↓reduceIte] at chooses
    cases falls : fallbackStep? inst key with
    | none =>
        simp only [falls] at chooses
        cases (ends_done.mp chooses).2.1
    | some other =>
        simp only [falls] at chooses
        rcases ends_ask.mp chooses with ⟨_, _, rest, rfl, _, _⟩
        exact .inr ⟨_, List.mem_cons_self, key, other, rfl⟩

end Leading

/-! ## What routes come back to -/

/-- The steps that were completed or skipped. -/
def Instance.passed (inst : Instance) : List Value :=
  inst.completed ++ inst.skipped

/-- An instance has passed what another one had, and besides it the steps of the first of some
passages, each as often as they do. -/
def Instance.PassesAlong (inst : Instance) (passages : List Passage) (saved : Instance) : Prop :=
  ∃ done, done <+: passages ∧
    saved.passed.Perm (inst.passed ++ done.map fun passage => .text passage.step.id)

section Returning

variable {runner : Runner} {definition : Definition} {passages : List Passage}

theorem Instance.SameProgress.passed_eq {inst other : Instance} (same : inst.SameProgress other) :
    other.passed = inst.passed := by
  rw [passed, passed, same.completed_eq, same.skipped_eq]

/-- Processing a step adds it to those that were passed. -/
theorem Passage.Sound.passed_perm {passage : Passage} (sound : passage.Sound runner definition) :
    passage.after.passed.Perm (passage.before.passed ++ [.text passage.step.id]) := by
  rcases sound.processed with completes | skips
  · rw [Instance.passed, Instance.passed, completes.completed_eq, completes.skipped_eq,
      List.append_assoc, List.append_assoc]
    exact List.perm_append_comm.append_left _
  · rw [Instance.passed, Instance.passed, skips.completed_eq, skips.skipped_eq,
      List.append_assoc]

/-- From one passage to a later one a run falls back, or the transitions lead from the first to
the second. -/
theorem route_connects {earlier later : Passage} {between after : List Passage}
    (sound : ∀ passage ∈ earlier :: between, passage.Sound runner definition)
    (linked : (earlier :: (between ++ later :: after)).IsChain Passage.Links) :
    TransGen definition.Connects earlier.step.id later.step.id ∨
      ∃ fallen ∈ earlier :: between, fallen.after.FallsBack fallen.step.id := by
  induction between generalizing earlier with
  | nil =>
      have links := (List.isChain_cons_cons.mp linked).1
      have same := (sound earlier List.mem_cons_self).definition_eq.2
      rcases links.leads.connects_or_falls with connects | ⟨falls, _⟩
      · rw [same] at connects
        exact .inl (.single connects)
      · exact .inr ⟨earlier, List.mem_cons_self, falls⟩
  | cons next between ih =>
      rcases List.isChain_cons_cons.mp linked with ⟨links, linked⟩
      rcases List.forall_mem_cons.mp sound with ⟨first, sound⟩
      have same := first.definition_eq.2
      rcases ih sound linked with connects | ⟨fallen, member, falls⟩
      · rcases links.leads.connects_or_falls with leads | ⟨falls, _⟩
        · rw [same] at leads
          exact .inl (.head leads connects)
        · exact .inr ⟨earlier, List.mem_cons_self, falls⟩
      · exact .inr ⟨fallen, List.mem_cons_of_mem earlier member, falls⟩

/-- Where neither transitions nor fallbacks make up a cycle, a route goes through distinct
steps. -/
theorem nodup_route (route : runner.Route definition passages)
    (acyclic : Acyclic definition.MayLead) :
    (passages.map fun passage => passage.step.id).Nodup := by
  apply acyclic.nodup_of_isChain
  rw [List.isChain_map]
  refine route.linked.imp_of_mem_imp fun passage next member _ links => ?_
  have leads := links.leads.mayLead
  rwa [(route.sound passage member).definition_eq.2] at leads

theorem Instance.SameProgress.passesAlong {inst saved : Instance} (same : inst.SameProgress saved) :
    inst.PassesAlong passages saved :=
  ⟨[], List.nil_prefix, by rw [same.passed_eq, List.map_nil, List.append_nil]⟩

theorem Instance.PassesAlong.of_same {inst saved other : Instance}
    (passes : inst.PassesAlong passages saved) (same : saved.SameProgress other) :
    inst.PassesAlong passages other := by
  rcases passes with ⟨done, first, passed⟩
  exact ⟨done, first, by rwa [same.passed_eq]⟩

theorem Instance.PassesAlong.cons {inst saved : Instance} {passage : Passage}
    (passes : passage.after.PassesAlong passages saved) (sound : passage.Sound runner definition)
    (same : inst.SameProgress passage.before) : inst.PassesAlong (passage :: passages) saved := by
  rcases passes with ⟨done, first, passed⟩
  refine ⟨passage :: done, List.cons_prefix_cons.mpr ⟨rfl, first⟩, passed.trans ?_⟩
  have added := sound.passed_perm
  rw [same.passed_eq] at added
  simpa using added.append_right (done.map fun passage => .text passage.step.id)

/-- What is saved along a route has passed the steps of the passages so far. -/
theorem route_passesAlong {inst : Instance} (route : runner.Route definition passages)
    (starts : ∀ first ∈ passages.head?, inst.SameProgress first.before) :
    SavesOnly (inst.PassesAlong passages) (passages.flatMap Passage.exchanges) ∧
      inst.PassesAlong passages (inst.reached passages) := by
  induction passages generalizing inst with
  | nil => exact ⟨savesOnly_nil, (Instance.SameProgress.refl inst).passesAlong⟩
  | cons passage rest ih =>
      rcases List.forall_mem_cons.mp route.sound with ⟨sound, others⟩
      rcases List.isChain_cons.mp route.linked with ⟨links, linked⟩
      have same : inst.SameProgress passage.before := starts passage rfl
      have onward := @ih passage.after ⟨others, linked⟩ fun next member => (links next member).same
      have left : SavesOnly (inst.PassesAlong (passage :: rest)) passage.exit :=
        sound.left.mono fun saved kept => kept.passesAlong.cons sound same
      have entered : SavesOnly (inst.PassesAlong (passage :: rest)) passage.entry := by
        rw [SavesOnly, sound.entered]
        exact List.forall_mem_singleton.mpr same.passesAlong
      have unsaved : SavesOnly (inst.PassesAlong (passage :: rest)) passage.course := by
        rw [SavesOnly, sound.unsaved]
        simp
      have later := onward.1.mono fun saved passes => passes.cons sound same
      refine ⟨?_, ?_⟩
      · simp [Passage.exchanges, entered, unsaved, left, later]
      · rw [Instance.reached_cons]
        exact onward.2.cons sound same

end Returning

/-! ## Runs that come back -/

section Recurrences

variable {σ : Type} {records : Records σ} {actors : Actors σ} {runner : Runner} {inst : Instance}
variable {definition : Definition} {state final : σ} {exchanges : List Request.Answered}
variable {outcome : Except Failure Instance}

/-- What is saved before, along and after the route of a run has passed its steps so far. -/
theorem leavesOff_passesAlong {opening closing told : List Request.Answered}
    {passages : List Passage} {limit : Nat} {key id : String} {ending : StepsEnd} {between : σ}
    (opens : Opens runner inst opening) (route : runner.Route definition passages)
    (starts : ∀ first ∈ passages.head?, inst.SameProgress first.before)
    (leaves : runner.LeavesOff (records.world actors) limit (runner.begun inst) key state passages
      closing ending between)
    (concludes : Ends (records.world actors) (runner.conclude id ending) between told outcome
      final) :
    SavesOnly (inst.PassesAlong passages)
      (opening ++ (passages.flatMap Passage.exchanges ++ (closing ++ told))) := by
  have begun := same_begun runner inst
  rcases leavesOff_accords (runner.begun_state inst) leaves with ⟨saves, accords, _⟩
  rcases route_passesAlong route starts with ⟨along, arrived⟩
  have closes := savesOnly_append.mpr ⟨saves, (conclude_accords accords concludes).1⟩
  refine savesOnly_append.mpr ⟨opens.savesOnly begun.passesAlong, ?_⟩
  refine savesOnly_append.mpr ⟨along, closes.mono fun saved same => ?_⟩
  exact arrived.of_same (begun.reached.trans same)

/-- What a run saves has passed the steps of its route so far. -/
theorem run_passesAlong (active : inst.state.isActive = true) (read : inst.definition.IsRead)
    (ended : Ends (records.world actors) (runner.run inst) state exchanges outcome final) :
    ∃ (opening : List Request.Answered) (passages : List Passage)
      (closing : List Request.Answered),
      exchanges = opening ++ (passages.flatMap Passage.exchanges ++ closing) ∧
      runner.Route inst.definition passages ∧ SavesOnly (inst.PassesAlong passages) exchanges := by
  rcases run_leavesOff active read ended with
    ⟨opening, passages, closing, told, key, ending, _, _, rfl, opens, _, route, heads, leaves,
      concludes⟩
  have starts : ∀ first ∈ passages.head?, inst.SameProgress first.before :=
    fun first member => (heads first member).2
  exact ⟨opening, passages, closing ++ told, rfl, route,
    leavesOff_passesAlong opens route starts leaves concludes⟩

/-- Where the transitions make up no cycle, a run of a fresh instance that processes a step again
has fallen back on the order of declaration in between, and so it has when it makes an attempt for
a step whose action has succeeded.  Where the possible fallbacks close no cycle either, no step is
both completed or skipped twice, and no attempt is made for a step after its action has
succeeded. -/
theorem run_comes_back {id : String} {data : Dict} {now : Time.Timestamp} (read : definition.IsRead)
    (acyclic : Acyclic definition.Connects)
    (ended : Ends (records.world actors) (runner.run (.fresh id definition data now)) state
      exchanges outcome final) :
    (∃ (opening : List Request.Answered) (passages : List Passage)
        (closing : List Request.Answered),
      exchanges = opening ++ (passages.flatMap Passage.exchanges ++ closing) ∧
      runner.Route definition passages ∧
      SavesOnly ((Instance.fresh id definition data now).PassesAlong passages) exchanges ∧
      ∀ before earlier between later after,
        passages = before ++ earlier :: (between ++ later :: after) →
        later.step.id = earlier.step.id →
        ∃ fallen ∈ earlier :: between, fallen.after.FallsBack fallen.step.id) ∧
    Renewed Request.Answered.FallsBack exchanges ∧
    (Acyclic definition.MayLead →
      SavesOnly (fun saved => saved.passed.Nodup) exchanges ∧ Steady exchanges) := by
  rcases run_passesAlong rfl read ended with ⟨opening, passages, closing, whole, route, along⟩
  refine ⟨⟨opening, passages, closing, whole, route, along, ?_⟩, ?_, fun unled => ⟨?_, ?_⟩⟩
  · intro before earlier between later after split same
    have sound : ∀ passage ∈ earlier :: between, passage.Sound runner definition := by
      intro passage member
      apply route.sound
      rw [split, ← List.cons_append]
      exact List.mem_append_right before (List.mem_append_left _ member)
    have linked : (earlier :: (between ++ later :: after)).IsChain Passage.Links := by
      have whole := route.linked
      rw [split] at whole
      exact whole.right_of_append
    rcases route_connects sound linked with connects | fallen
    · rw [same] at connects
      exact absurd connects (acyclic earlier.step.id)
    · exact fallen
  · refine run_renewed acyclic (fun other key next choice _ _ same chooses => ?_) rfl read ended
    have connects := selectNext_connects chooses
    rwa [same] at connects
  · refine along.mono fun saved passes => ?_
    rcases passes with ⟨first, initial, passed⟩
    have once := (nodup_route route unled).sublist
      (initial.sublist.map fun passage => passage.step.id)
    refine passed.nodup_iff.mpr ?_
    simpa [Instance.passed, Instance.fresh, List.Nodup, List.pairwise_map] using once
  · refine steady_of_renewed
      (run_renewed unled (fun other key next choice _ _ same chooses => ?_) rfl read ended)
    have leads := (chosenStep_eq_ok.mp (selectNext_ends chooses).2.symm).mayLead
    rw [same] at leads
    exact .inl leads

end Recurrences

/-! ## An amended order -/

namespace Definition

/-- The document of orders that are checked once more after they were amended. -/
def amendingDocument : Value :=
  let step (id : String) : Value :=
    .dict (Dict.ofFields [("id", .text id), ("action", .text "act")])
  let transition (source target : String) : List (String × Value) :=
    [("from", .text source), ("to", .text target)]
  .dict (Dict.ofFields
    [("name", .text "amending"),
      ("steps", .list [step "receive", step "check", step "amend", step "ship"]),
      ("transitions", .list
        [.dict (Dict.ofFields (transition "receive" "check")),
          .dict (Dict.ofFields (transition "check" "ship" ++ [("condition", .text "approved")])),
          .dict (Dict.ofFields (transition "amend" "check"))])])

/-- Orders that are checked once more after they were amended.  No transition leads to the step
that amends them: a run falls back to it when an order is not approved. -/
def amending : Definition :=
  let step (id : String) : String × Step := (id, { Step.named id with action := some "act" })
  ⟨"amending", "1.0", [step "receive", step "check", step "amend", step "ship"],
    [⟨"receive", "check", none, []⟩, ⟨"check", "ship", some "approved", []⟩,
      ⟨"amend", "check", none, []⟩], []⟩

theorem isRead_amending : amending.IsRead := by
  refine ⟨.document amendingDocument, rfl, ?_⟩
  intro known same
  cases same

theorem acyclic_amending : Acyclic amending.Connects := by
  let rank (key : String) : Nat := if key = "ship" then 2 else if key = "check" then 1 else 0
  have rises : ∀ transition ∈ amending.transitions,
      rank transition.source < rank transition.target := by
    decide
  refine acyclic_of_rank rank ?_
  rintro source target ⟨transition, member, rfl, rfl⟩
  exact rises transition member

theorem acyclic_reversible : Acyclic reversible.MayLead := by
  refine acyclic_of_rank (fun _ => 0) ?_
  rintro source target (⟨_, ⟨⟩, _⟩ | ⟨leaves, _⟩)
  exact absurd rfl leaves

end Definition

/-- An order that is not approved. -/
def Instance.unapproved : Instance :=
  .fresh "w" .amending (Dict.ofFields [("approved", .bool false)]) default

theorem run_comes_back_unapproved :
    let world := MemoryStore.records.world Repertoire.succeeding.deeds.actors
    let course := (Runner.plain.run .unapproved).course
      (MemoryStore.records.serve Repertoire.succeeding.deeds) .empty
    let straight := (Runner.plain.run (.fresh "w" .reversible [] default)).course
      (MemoryStore.records.serve Repertoire.succeeding.deeds) .empty
    Definition.amending.IsRead ∧ Acyclic Definition.amending.Connects ∧
      Ends world (Runner.plain.run .unapproved) .empty course.1 course.2.1 course.2.2 ∧
      Renewed Request.Answered.FallsBack course.1 ∧
      Acyclic Definition.reversible.MayLead ∧
      Ends world (Runner.plain.run (.fresh "w" .reversible [] default)) .empty straight.1
        straight.2.1 straight.2.2 ∧
      Steady straight.1 := by
  intro world course straight
  have ended := ends_course (MemoryStore.records.world_serve Repertoire.succeeding.deeds)
    (Runner.plain.run .unapproved) .empty
  have straightEnded := ends_course (MemoryStore.records.world_serve Repertoire.succeeding.deeds)
    (Runner.plain.run (.fresh "w" .reversible [] default)) .empty
  have connected : Acyclic Definition.reversible.Connects :=
    Definition.acyclic_reversible.mono fun _ _ => .inl
  have again := run_comes_back Definition.isRead_amending Definition.acyclic_amending ended
  have once := run_comes_back Definition.isRead_reversible connected straightEnded
  exact ⟨Definition.isRead_amending, Definition.acyclic_amending, ended, again.2.1,
    Definition.acyclic_reversible, straightEnded, (once.2.2 Definition.acyclic_reversible).2⟩

/-- Transitions that make up no cycle do not keep a run from completing a step twice, nor from
making an attempt for it after its action has succeeded. -/
theorem not_steady_unapproved :
    let world := MemoryStore.records.world Repertoire.succeeding.deeds.actors
    let course := (Runner.plain.run .unapproved).course
      (MemoryStore.records.serve Repertoire.succeeding.deeds) .empty
    Definition.amending.IsRead ∧ Acyclic Definition.amending.Connects ∧
      Ends world (Runner.plain.run .unapproved) .empty course.1 course.2.1 course.2.2 ∧
      (∃ saved ∈ course.1.filterMap (·.saved?), ¬ saved.passed.Nodup) ∧ ¬ Steady course.1 := by
  intro world course
  have ended := ends_course (MemoryStore.records.world_serve Repertoire.succeeding.deeds)
    (Runner.plain.run .unapproved) .empty
  exact ⟨Definition.isRead_amending, Definition.acyclic_amending, ended, by decide +kernel,
    by decide +kernel⟩

end Workflow
