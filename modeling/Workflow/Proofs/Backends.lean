import Workflow.Proofs.Rows
import Workflow.Store.Basic

/-!
# Stores that answer alike

The store in memory and the table hold the same instances in the same order, the one as they are and
the other as rows, and they keep doing so whatever is saved and deleted.  So they answer all calls
alike, but for listings bounded by a time that has no form in universal time: the table refuses
those.
-/

namespace Workflow

open Time

namespace Store

/-! ## Calls -/

/-- A call of a store, with the time at which records are read. -/
inductive Call where
  | save (inst : Instance)
  | load (id : String) (now : Timestamp)
  | list (filter : Filter) (now : Timestamp)
  | delete (id : String)
  | contains (id : String)

/-- How a call is answered. -/
inductive Answer where
  | saved
  | loaded (inst : Instance)
  | listed (instances : List Instance)
  | told (truth : Bool)
  | failed (failure : Failure)

/-- The answer to a call, and the store that it leaves. -/
def answer (store : Store) : Call → Answer × Store
  | .save inst =>
    match store.save inst with
    | .ok after => (.saved, after)
    | .error failure => (.failed failure, store)
  | .load id now =>
    match store.load id now with
    | .ok inst => (.loaded inst, store)
    | .error failure => (.failed failure, store)
  | .list filter now =>
    match store.list filter now with
    | .ok instances => (.listed instances, store)
    | .error failure => (.failed failure, store)
  | .delete id => let (found, after) := store.delete id; (.told found, after)
  | .contains id => (.told (store.contains id), store)

/-- Calls in turn, each with its answer. -/
def exchanges (store : Store) : List Call → List (Call × Answer)
  | [] => []
  | call :: rest => (call, (store.answer call).1) :: (store.answer call).2.exchanges rest

end Store

/-! ## Lists of rows and of instances -/

/-- Related lists stay related when both are put in an order that the relation respects. -/
theorem forall₂_mergeSort {α β : Type} {related : α → β → Prop} {before : α → α → Bool}
    {before' : β → β → Bool} {items : List α} {others : List β}
    (all : List.Forall₂ related items others)
    (respects : ∀ item item' other other', related item other → related item' other' →
      before item item' = before' other other') :
    List.Forall₂ related (items.mergeSort before) (others.mergeSort before') := by
  obtain ⟨size, pairs⟩ := List.forall₂_iff_zip.mp all
  have firsts := @List.map_mergeSort _ _ (fun left right => before left.1 right.1) before Prod.fst
    (items.zip others) fun _ _ _ _ => rfl
  have seconds := @List.map_mergeSort _ _ (fun left right => before left.1 right.1) before' Prod.snd
    (items.zip others) fun _ member _ member' => respects _ _ _ _ (pairs member) (pairs member')
  rw [List.map_fst_zip (Nat.le_of_eq size)] at firsts
  rw [List.map_snd_zip (Nat.le_of_eq size.symm)] at seconds
  rw [← firsts, ← seconds, List.forall₂_map_left_iff, List.forall₂_map_right_iff, List.forall₂_same]
  intro pair member
  exact pairs (List.mem_mergeSort.mp member)

/-- A row has what its instance is found, chosen and put in order by. -/
structure Row.Shows (row : Row) (inst : Instance) : Prop where
  id : row.id = inst.id
  definitionName : row.definitionName = inst.definition.name
  state : row.state = inst.state.name
  createdAt : ∃ universal, inst.createdAt.toUniversal = .ok universal ∧
    row.createdAt = universal.text

theorem Row.Keeps.shows {row : Row} {inst : Instance} (keeps : row.Keeps inst) : row.Shows inst :=
  ⟨keeps.id, keeps.definitionName, keeps.state, keeps.createdAt⟩

variable {rows : List Row} {instances : List Instance}

theorem find?_keeps (kept : List.Forall₂ Row.Keeps rows instances) (id : String) :
    Option.Rel Row.Keeps (rows.find? (·.id == id)) (instances.find? (·.id == id)) := by
  induction kept with
  | nil => exact Option.Rel.none
  | cons first _ ih =>
      rw [List.find?_cons, List.find?_cons, first.id]
      split
      · exact Option.Rel.some first
      · exact ih

theorem contains_keeps (kept : List.Forall₂ Row.Keeps rows instances) (id : String) :
    Table.contains ⟨rows⟩ id = MemoryStore.contains ⟨instances⟩ id := by
  have found := find?_keeps kept id
  rw [Table.contains, MemoryStore.contains, Table.find?, MemoryStore.find?]
  generalize rows.find? (·.id == id) = row? at found
  generalize instances.find? (·.id == id) = inst? at found
  cases found <;> rfl

section Related

variable {related : Row → Instance → Prop}

/-- Rows are put in the places of the instances that they show. -/
theorem put_related (sees : ∀ {row inst}, related row inst → row.Shows inst)
    (all : List.Forall₂ related rows instances) {row : Row} {inst : Instance}
    (one : related row inst) :
    List.Forall₂ related (Table.put row rows) (MemoryStore.put inst instances) := by
  induction all with
  | nil => exact List.Forall₂.cons one List.Forall₂.nil
  | cons first rest ih =>
      rw [Table.put, MemoryStore.put, (sees first).id, (sees one).id]
      split
      · exact List.Forall₂.cons one rest
      · exact List.Forall₂.cons first ih

theorem filter_related (sees : ∀ {row inst}, related row inst → row.Shows inst)
    (all : List.Forall₂ related rows instances) (id : String) :
    List.Forall₂ related (rows.filter (·.id != id)) (instances.filter (·.id != id)) := by
  apply List.rel_filter _ all
  intro row inst one
  simp only [(sees one).id]

end Related

/-! ## Listings -/

/-- The times that bound a listing have forms in universal time. -/
def Filter.Placed (filter : Filter) : Prop :=
  (∀ bound ∈ filter.createdBefore, bound.HasUniversal) ∧
    ∀ bound ∈ filter.createdAfter, bound.HasUniversal

theorem text_lt_iff_instant {row : Row} {inst : Instance} (shows : row.Shows inst)
    {bound universal : Timestamp} (placed : bound.toUniversal = .ok universal) :
    (row.createdAt < universal.text ↔ inst.createdAt.instant < bound.instant) ∧
      (universal.text < row.createdAt ↔ bound.instant < inst.createdAt.instant) := by
  obtain ⟨created, placed', same⟩ := shows.createdAt
  rw [same]
  exact ⟨Timestamp.text_lt_iff placed' placed, Timestamp.text_lt_iff placed placed'⟩

theorem state_name_beq (left right : State) : (left.name == right.name) = (left == right) := by
  cases left <;> cases right <;> rfl

theorem universalText?_eq_ok {bound? : Option Timestamp}
    (placed : ∀ bound ∈ bound?, bound.HasUniversal) :
    ∃ text?, Table.universalText? bound? = .ok text? ∧
      ∀ {row : Row} {inst : Instance}, row.Shows inst →
        text?.all (row.createdAt < ·) = bound?.all (inst.createdAt.instant < ·.instant) ∧
        text?.all (· < row.createdAt) = bound?.all (·.instant < inst.createdAt.instant) := by
  cases bound? with
  | none => exact ⟨none, rfl, fun _ => ⟨rfl, rfl⟩⟩
  | some bound =>
      obtain ⟨universal, place⟩ := placed bound rfl
      refine ⟨some universal.text, ?_, fun shows => ?_⟩
      · rw [Table.universalText?, Row.universalText_eq_ok place]
        rfl
      · have order := text_lt_iff_instant shows place
        simp only [Option.all_some, order, and_self]

section Related

variable {related : Row → Instance → Prop}

theorem sortByCreation_related (sees : ∀ {row inst}, related row inst → row.Shows inst)
    (all : List.Forall₂ related rows instances) :
    List.Forall₂ related (Table.sortByCreation rows) (MemoryStore.sortByCreation instances) := by
  apply forall₂_mergeSort all
  intro row row' inst inst' first second
  obtain ⟨created, placed, same⟩ := (sees first).createdAt
  have less := (text_lt_iff_instant (sees second) placed).1
  rw [← same] at less
  simp only [less, ← decide_not, Int.not_lt]

/-- Of rows that show instances, a table lists those of the instances that the filter accepts, in the
order of their creation. -/
theorem list_related (sees : ∀ {row inst}, related row inst → row.Shows inst)
    (all : List.Forall₂ related rows instances) {filter : Filter} (placed : filter.Placed) :
    ∃ ordered, List.Forall₂ related ordered
        (MemoryStore.sortByCreation (instances.filter filter.accepts)) ∧
      ∀ now, filter.limit ≤ Row.largestNumber → filter.offset ≤ Row.largestNumber →
        Table.list ⟨rows⟩ filter now = (filter.window ordered).mapM (·.toInstance now) := by
  obtain ⟨before, readBefore, earlier⟩ := universalText?_eq_ok placed.1
  obtain ⟨after, readAfter, later⟩ := universalText?_eq_ok placed.2
  have chosen : List.Forall₂ related (Table.chosen ⟨rows⟩ filter before after)
      (instances.filter filter.accepts) := by
    apply List.rel_filter _ all
    intro row inst one
    have state : filter.state.all (row.state == ·.name) = filter.state.all (inst.state == ·) := by
      simp only [(sees one).state, state_name_beq]
    simp only [state, (sees one).definitionName, (earlier (sees one)).1, (later (sees one)).2,
      Filter.accepts]
  refine ⟨_, sortByCreation_related sees chosen, fun now limit offset => ?_⟩
  have fits : ¬ (Row.largestNumber < filter.limit ∨ Row.largestNumber < filter.offset) := by
    omega
  rw [Table.list, readBefore, readAfter]
  simp only [bind, Except.bind, if_neg fits]

end Related

/-- What is read back from rows is equal to the instances that they keep. -/
theorem mapM_toInstance (kept : List.Forall₂ Row.Keeps rows instances) (now : Timestamp) :
    ∃ others, rows.mapM (·.toInstance now) = .ok others ∧
      List.Forall₂ (fun inst other => inst.equals other = true) instances others := by
  induction kept with
  | nil => exact ⟨[], rfl, List.Forall₂.nil⟩
  | cons first _ ih =>
      obtain ⟨other, read, same⟩ := first.restored now
      obtain ⟨others, reads, all⟩ := ih
      refine ⟨other :: others, ?_, List.Forall₂.cons same all⟩
      simp only [List.mapM_cons, read, reads, bind, Except.bind, pure, Except.pure]

theorem list_memory (kept : List.Forall₂ Row.Keeps rows instances) (filter : Filter) :
    MemoryStore.list ⟨instances⟩ filter =
      .ok (filter.window (MemoryStore.sortByCreation (instances.filter filter.accepts))) := by
  have aware : ∀ inst ∈ instances, inst.createdAt.offset.isSome = true := by
    induction kept with
    | nil => simp
    | cons first _ ih => simpa [first.aware] using ih
  have comparable :
      MemoryStore.comparable ((instances.filter filter.accepts).map (·.createdAt)) = true := by
    rw [MemoryStore.comparable, Bool.or_eq_true, List.all_map]
    apply Or.inl
    rw [List.all_eq_true]
    intro inst member
    exact aware inst (List.mem_of_mem_filter member)
  rw [MemoryStore.list, if_pos comparable]

/-- A listing whose bounds have forms in universal time shows the same instances from both. -/
theorem list_agrees (kept : List.Forall₂ Row.Keeps rows instances) {filter : Filter}
    (placed : filter.Placed)
    (limit : filter.limit ≤ Row.largestNumber) (offset : filter.offset ≤ Row.largestNumber)
    (now : Timestamp) :
    ∃ shown others, MemoryStore.list ⟨instances⟩ filter = .ok shown ∧
      Table.list ⟨rows⟩ filter now = .ok others ∧
        List.Forall₂ (fun inst other => inst.equals other = true) shown others := by
  obtain ⟨ordered, keep, lists⟩ := list_related Row.Keeps.shows kept placed
  have shown : List.Forall₂ Row.Keeps (filter.window ordered)
      (filter.window (MemoryStore.sortByCreation (instances.filter filter.accepts))) :=
    List.forall₂_take _ (List.forall₂_drop _ keep)
  obtain ⟨others, read, same⟩ := mapM_toInstance shown now
  exact ⟨_, others, list_memory kept filter, (lists now limit offset).trans read, same⟩

theorem universalText?_unplaced {bound? : Option Timestamp}
    (unplaced : ¬ ∀ bound ∈ bound?, bound.HasUniversal) :
    Table.universalText? bound? = .error (.fault (.time .outOfCalendar)) := by
  cases bound? with
  | none => exact absurd (fun _ member => nomatch member) unplaced
  | some bound =>
      cases place : bound.toUniversal with
      | ok universal =>
          apply absurd _ unplaced
          intro other same
          cases same
          exact ⟨universal, place⟩
      | error error =>
          have only : error = .outOfCalendar := by
            unfold Timestamp.toUniversal at place
            split at place
            · cases place
            · cases place
              rfl
          rw [Table.universalText?, universalText, place, only]
          rfl

/-- A listing bounded by a time that has no form in universal time is refused by the table. -/
theorem list_unplaced {filter : Filter} (unplaced : ¬ filter.Placed) (rows : List Row)
    (now : Timestamp) :
    Table.list ⟨rows⟩ filter now = .error (.fault (.time .outOfCalendar)) := by
  by_cases before : ∀ bound ∈ filter.createdBefore, bound.HasUniversal
  · have after := fun placed => unplaced ⟨before, placed⟩
    obtain ⟨text?, reads, _⟩ := universalText?_eq_ok before
    rw [Table.list, reads, universalText?_unplaced after]
    rfl
  · rw [Table.list, universalText?_unplaced before]
    rfl

namespace Store

/-! ## Answers -/

/-- Answers that agree: an instance for an equal one, and a missing one for a missing one. -/
inductive Answer.Agree : Answer → Answer → Prop
  | saved : Agree .saved .saved
  | loaded {inst other : Instance} : inst.equals other = true → Agree (.loaded inst) (.loaded other)
  | missing (id : String) :
      Agree (.failed (.workflow (.instanceNotFound id (some "memory"))))
        (.failed (.workflow (.instanceNotFound id (some "sqlite"))))
  | listed {shown others : List Instance} :
      List.Forall₂ (fun inst other => inst.equals other = true) shown others →
        Agree (.listed shown) (.listed others)
  | told (truth : Bool) : Agree (.told truth) (.told truth)

/-- What a table takes: instances that rows can keep, and numbers of no more than 64 bits. -/
def Call.Admissible : Call → Prop
  | .save inst => inst.Storable
  | .list filter _ => filter.limit ≤ Row.largestNumber ∧ filter.offset ≤ Row.largestNumber
  | _ => True

/-- The bounds of a listing have forms in universal time. -/
def Call.Placed : Call → Prop
  | .list filter _ => filter.Placed
  | _ => True

/-- A store in memory and a table that keeps the same instances in the same order. -/
inductive Mirrors : Store → Store → Prop
  | mk {rows : List Row} {instances : List Instance} : List.Forall₂ Row.Keeps rows instances →
      Mirrors (.inMemory ⟨instances⟩) (.inTable ⟨rows⟩)

theorem mirrors_empty : Mirrors (.inMemory .empty) (.inTable .empty) :=
  .mk .nil

/-- One call with its answer from memory and with its answer from the table.  The answers agree, but
for a listing bounded by a time that has no form in universal time: memory shows it, and the table
refuses it. -/
structure Matches (memory table : Call × Answer) : Prop where
  call : memory.1 = table.1
  agree : memory.1.Placed → memory.2.Agree table.2
  refused : ¬ memory.1.Placed →
    (∃ shown, memory.2 = .listed shown) ∧ table.2 = .failed (.fault (.time .outOfCalendar))

theorem Matches.of_agree {call : Call} {answer other : Answer} (agree : answer.Agree other)
    (placed : call.Placed) : Matches (call, answer) (call, other) :=
  ⟨rfl, fun _ => agree, fun unplaced => absurd placed unplaced⟩

/-- One call is answered alike, and leaves stores that hold the same instances. -/
theorem answer_matches {memory table : Store} (mirrors : memory.Mirrors table) {call : Call}
    (admissible : call.Admissible) :
    Matches (call, (memory.answer call).1) (call, (table.answer call).1) ∧
      (memory.answer call).2.Mirrors (table.answer call).2 := by
  cases mirrors with
  | @mk rows instances kept =>
    cases call with
    | save inst =>
        obtain ⟨row, made, keeps⟩ := Row.keeps_of_storable admissible
        have saved : Table.save ⟨rows⟩ inst = .ok ⟨Table.put row rows⟩ := by
          simp only [Table.save, made, bind, Except.bind]
        simp only [answer, save, saved, Functor.map, Except.map]
        exact ⟨.of_agree .saved trivial, .mk (put_related Row.Keeps.shows kept keeps)⟩
    | load id now =>
        have found := find?_keeps kept id
        simp only [answer, load, Table.load, MemoryStore.load, Table.find?, MemoryStore.find?]
        generalize rows.find? (·.id == id) = row? at found
        generalize instances.find? (·.id == id) = inst? at found
        cases found with
        | some keeps =>
            obtain ⟨other, read, same⟩ := keeps.restored now
            simp only [read]
            exact ⟨.of_agree (.loaded same) trivial, .mk kept⟩
        | none => exact ⟨.of_agree (.missing id) trivial, .mk kept⟩
    | list filter now =>
        simp only [answer, list]
        by_cases placed : filter.Placed
        · obtain ⟨shown, others, memory, table, same⟩ :=
            list_agrees kept placed admissible.1 admissible.2 now
          simp only [memory, table]
          exact ⟨.of_agree (.listed same) placed, .mk kept⟩
        · simp only [list_memory kept, list_unplaced placed]
          exact ⟨⟨rfl, fun place => absurd place placed, fun _ => ⟨⟨_, rfl⟩, rfl⟩⟩, .mk kept⟩
    | delete id =>
        simp only [answer, delete, Table.delete, MemoryStore.delete, contains_keeps kept]
        exact ⟨.of_agree (.told _) trivial, .mk (filter_related Row.Keeps.shows kept id)⟩
    | contains id =>
        simp only [answer, contains, contains_keeps kept]
        exact ⟨.of_agree (.told _) trivial, .mk kept⟩

theorem exchanges_match_of_mirrors {memory table : Store} (mirrors : memory.Mirrors table)
    {calls : List Call} (admissible : ∀ call ∈ calls, call.Admissible) :
    List.Forall₂ Matches (memory.exchanges calls) (table.exchanges calls) := by
  induction calls generalizing memory table with
  | nil => exact List.Forall₂.nil
  | cons call rest ih =>
      obtain ⟨first, later⟩ := List.forall_mem_cons.mp admissible
      obtain ⟨alike, mirrors'⟩ := answer_matches mirrors first
      exact List.Forall₂.cons alike (ih mirrors' later)

/-- The store in memory and the table answer every sequence of calls alike: with equal instances,
with the same lists in the same order, with the same truth values, and with a missing instance in
the same places. Only a listing bounded by a time that has no form in universal time is shown from
memory and refused by the table. -/
theorem exchanges_match {calls : List Call} (admissible : ∀ call ∈ calls, call.Admissible) :
    List.Forall₂ Matches (exchanges (.inMemory .empty) calls) (exchanges (.inTable .empty) calls) :=
  exchanges_match_of_mirrors mirrors_empty admissible

/-- An instance made on a clock an hour ahead of universal time. -/
def ahead : Instance :=
  .fresh "w" .reversible [] ⟨dayMicroseconds, some 3600, by decide⟩

/-- The listing of what was made before the last second of the calendar, on a clock five hours
behind universal time. -/
def beforeLast : Filter :=
  { Filter.all with
    createdBefore := some ⟨calendarMicroseconds - 1000000, some (-18000), by decide⟩ }

theorem storable_ahead : ahead.Storable where
  read := Definition.isRead_reversible
  distinct := by decide
  json := by decide +kernel
  data := rfl
  currentStep := ⟨none, rfl⟩
  completed := ⟨[], rfl⟩
  skipped := ⟨[], rfl⟩
  errorMessage := ⟨none, rfl⟩
  failedAt := by simp [ahead, Instance.fresh]
  createdAt := ⟨rfl, _, rfl⟩
  updatedAt := ⟨rfl, _, rfl⟩

theorem unplaced_beforeLast : ¬ beforeLast.Placed := by
  intro placed
  obtain ⟨universal, place⟩ := placed.1 _ rfl
  cases place

/-- Saves, loads, listings and deletions of that instance. -/
def callsAhead : List Call :=
  [.save ahead, .list beforeLast default, .load "w" default, .list Filter.all default, .delete "w",
    .contains "w", .load "w" default]

theorem admissible_beforeLast (now : Timestamp) : (Call.list beforeLast now).Admissible := by
  constructor <;> decide

theorem admissible_callsAhead : ∀ call ∈ callsAhead, call.Admissible := by
  have all : (Call.list Filter.all default).Admissible := by
    constructor <;> decide
  simp only [callsAhead, List.forall_mem_cons]
  exact ⟨storable_ahead, admissible_beforeLast default, True.intro, all, True.intro, True.intro,
    True.intro, List.forall_mem_nil _⟩

theorem exchanges_match_ahead :
    (∀ call ∈ callsAhead, call.Admissible) ∧
      List.Forall₂ Matches (exchanges (.inMemory .empty) callsAhead)
        (exchanges (.inTable .empty) callsAhead) :=
  ⟨admissible_callsAhead, exchanges_match admissible_callsAhead⟩

/-- Not all answers agree: the first listing is shown from memory and refused by the table. -/
theorem not_agree_beforeLast :
    (∀ call ∈ callsAhead, call.Admissible) ∧
      ¬ List.Forall₂ (fun one other => one.2.Agree other.2)
        (exchanges (.inMemory .empty) callsAhead) (exchanges (.inTable .empty) callsAhead) := by
  refine ⟨admissible_callsAhead, ?_⟩
  intro agree
  obtain ⟨_, mirrors⟩ :=
    answer_matches mirrors_empty (show Call.Admissible (.save ahead) from storable_ahead)
  obtain ⟨alike, _⟩ := answer_matches mirrors (admissible_beforeLast default)
  obtain ⟨⟨shown, listed⟩, refused⟩ := alike.refused unplaced_beforeLast
  cases agree with
  | cons _ later =>
      cases later with
      | cons listing _ =>
          rw [listed, refused] at listing
          cases listing

end Store

end Workflow
