import Workflow.Proofs.Backends
import Workflow.Proofs.Listing

/-!
# Texts that tell the time

The table finds rows by the texts of their creation in universal time and puts them in the order of
those texts, byte by byte.  A text has microseconds only where they are not nought, and then an
offset, so a shorter one may stand for an earlier or a later time.  The order of the bytes is that of
the instants all the same, whatever clocks the times were read from, and so a listing shows what was
made within its bounds, in the order in which it was made.
-/

namespace Workflow

/-! ## Bytes of plain texts -/

namespace Text

/-- The bytes of a text in UTF-8. -/
def bytes (text : String) : List UInt8 :=
  text.toUTF8.data.toList

/-- A text that is made of the characters with one byte. -/
def IsPlain (cs : List Char) : Prop :=
  ∀ c ∈ cs, c.toNat < 128

theorem IsPlain.append {front back : List Char} (first : IsPlain front) (second : IsPlain back) :
    IsPlain (front ++ back) :=
  List.forall_mem_append.mpr ⟨first, second⟩

theorem IsPlain.cons {c : Char} {rest : List Char} (first : c.toNat < 128) (later : IsPlain rest) :
    IsPlain (c :: rest) :=
  List.forall_mem_cons.mpr ⟨first, later⟩

theorem bytes_eq_map {text : String} (plain : IsPlain text.toList) :
    bytes text = text.toList.map fun c => UInt8.ofNat c.toNat := by
  have single : ∀ c ∈ text.toList, String.utf8EncodeChar c = [UInt8.ofNat c.toNat] :=
    fun c member => if_pos (Nat.le_of_lt_succ (plain c member))
  rw [bytes, String.toUTF8_eq_toByteArray, ← String.utf8Encode_toList, List.utf8Encode,
    List.toList_data_toByteArray, List.flatMap_congr single, ← List.map_eq_flatMap]

theorem toNat_code {c : Char} (plain : c.toNat < 128) : (UInt8.ofNat c.toNat).toNat = c.toNat := by
  rw [UInt8.toNat_ofNat', Nat.mod_eq_of_lt (by omega)]

/-- The characters of plain texts are in the order of their codes, and so are the texts. -/
theorem map_code_lt_iff {left right : List Char} (plain : IsPlain left) (plain' : IsPlain right) :
    (left.map fun c => UInt8.ofNat c.toNat) < (right.map fun c => UInt8.ofNat c.toNat) ↔
      left < right := by
  induction left generalizing right with
  | nil => cases right <;> simp
  | cons c rest ih =>
      cases right with
      | nil => simp
      | cons d rest' =>
          obtain ⟨first, later⟩ := List.forall_mem_cons.mp plain
          obtain ⟨first', later'⟩ := List.forall_mem_cons.mp plain'
          have less : UInt8.ofNat c.toNat < UInt8.ofNat d.toNat ↔ c < d := by
            rw [UInt8.lt_iff_toNat_lt, toNat_code first, toNat_code first']
            rfl
          have same : UInt8.ofNat c.toNat = UInt8.ofNat d.toNat ↔ c = d := by
            rw [← UInt8.toNat_inj, toNat_code first, toNat_code first', Char.toNat_inj]
          rw [List.map_cons, List.map_cons, List.cons_lt_cons_iff, List.cons_lt_cons_iff, less,
            same, ih later later']

theorem bytes_lt_iff {left right : String} (plain : IsPlain left.toList)
    (plain' : IsPlain right.toList) : bytes left < bytes right ↔ left < right := by
  rw [bytes_eq_map plain, bytes_eq_map plain', map_code_lt_iff plain plain', String.lt_iff]

end Text

/-! ## Texts of times -/

namespace Time

open Text

theorem isPlain_padded (width value : Nat) : IsPlain (padded width value) := by
  intro c member
  have digit : 48 ≤ c.val ∧ c.val ≤ 57 := by
    simpa [Char.isDigit] using isDigit_of_mem_padded member
  exact Nat.lt_of_le_of_lt (UInt32.le_iff_toNat_le.mp digit.2) (by decide)

theorem isPlain_date (date : Date) : IsPlain date.text :=
  (isPlain_padded _ _).append <| .cons (by decide) <|
    (isPlain_padded _ _).append <| .cons (by decide) (isPlain_padded _ _)

theorem isPlain_clockText (microseconds : Nat) : IsPlain (Timestamp.clockText microseconds) := by
  refine (isPlain_padded _ _).append <| .cons (by decide) <|
    (isPlain_padded _ _).append <| .cons (by decide) <| (isPlain_padded _ _).append ?_
  split
  · exact List.forall_mem_nil _
  · exact .cons (by decide) (isPlain_padded _ _)

theorem isPlain_offsetText (offset : Int) : IsPlain (Timestamp.offsetText offset) := by
  refine .cons (by split <;> decide) <| (isPlain_padded _ _).append <| .cons (by decide) <|
    (isPlain_padded _ _).append ?_
  split
  · exact List.forall_mem_nil _
  · exact .cons (by decide) (isPlain_padded _ _)

theorem isPlain_text (time : Timestamp) : IsPlain time.text.toList := by
  rw [Timestamp.text, String.toList_ofList]
  refine .append ((isPlain_date _).append <| .cons (by decide) (isPlain_clockText _)) ?_
  cases time.offset with
  | none => exact List.forall_mem_nil _
  | some offset => exact isPlain_offsetText offset

namespace Timestamp

/-- A time has a form in universal time if that lies in the calendar. -/
theorem hasUniversal_iff {time : Timestamp} :
    time.HasUniversal ↔ 0 ≤ time.instant ∧ time.instant < calendarMicroseconds := by
  constructor
  · rintro ⟨universal, placed⟩
    have wall := (toUniversal_eq_ok placed).2
    have inside := universal.inCalendar
    omega
  · intro inside
    have within : 0 ≤ time.instant ∧ time.instant.toNat < calendarMicroseconds := by omega
    exact ⟨⟨time.instant.toNat, some 0, within.2⟩, by simp [toUniversal, ofWall?, within]⟩

/-- The forms in universal time of two times are one if their instants are. -/
theorem universal_eq_iff {time other universal universal' : Timestamp}
    (placed : time.toUniversal = .ok universal) (placed' : other.toUniversal = .ok universal') :
    universal.text = universal'.text ↔ time.instant = other.instant := by
  have less := text_lt_iff placed placed'
  have greater := text_lt_iff placed' placed
  constructor
  · intro same
    rw [same] at less greater
    have notBefore := mt less.mpr (String.lt_irrefl _)
    have notAfter := mt greater.mpr (String.lt_irrefl _)
    omega
  · intro same
    obtain ⟨zone, wall⟩ := toUniversal_eq_ok placed
    obtain ⟨zone', wall'⟩ := toUniversal_eq_ok placed'
    rw [eq_of_wall (by omega) (zone.trans zone'.symm)]

end Timestamp

end Time

open Time

/-- A time has a text for the table if its form in universal time lies in the calendar. -/
theorem universalText_isOk_iff {time : Timestamp} :
    (∃ text, universalText time = .ok text) ↔
      0 ≤ time.instant ∧ time.instant < calendarMicroseconds := by
  rw [← Timestamp.hasUniversal_iff, universalText, Timestamp.HasUniversal]
  cases time.toUniversal <;> simp

theorem universalText_eq_ok_iff {time : Timestamp} {text : String} :
    universalText time = .ok text ↔
      ∃ universal, time.toUniversal = .ok universal ∧ universal.text = text := by
  rw [universalText]
  cases time.toUniversal <;> simp

/-- The bytes of the texts of times are in the order of the instants. -/
theorem bytes_universalText_lt_iff {time other : Timestamp} {text otherText : String}
    (written : universalText time = .ok text) (written' : universalText other = .ok otherText) :
    Text.bytes text < Text.bytes otherText ↔ time.instant < other.instant := by
  obtain ⟨universal, placed, rfl⟩ := universalText_eq_ok_iff.mp written
  obtain ⟨universal', placed', rfl⟩ := universalText_eq_ok_iff.mp written'
  rw [Text.bytes_lt_iff (isPlain_text universal) (isPlain_text universal')]
  exact Timestamp.text_lt_iff placed placed'

theorem universalText_eq_iff {time other : Timestamp} {text otherText : String}
    (written : universalText time = .ok text) (written' : universalText other = .ok otherText) :
    text = otherText ↔ time.instant = other.instant := by
  obtain ⟨universal, placed, rfl⟩ := universalText_eq_ok_iff.mp written
  obtain ⟨universal', placed', rfl⟩ := universalText_eq_ok_iff.mp written'
  exact Timestamp.universal_eq_iff placed placed'

/-! ## Rows of instances -/

/-- The row of an instance shows it. -/
theorem Row.shows_of_ofInstance {row : Row} {inst : Instance}
    (made : Row.ofInstance inst = .ok row) : row.Shows inst := by
  obtain ⟨_, _, made⟩ := then_eq_ok.mp made
  obtain ⟨_, _, made⟩ := then_eq_ok.mp made
  obtain ⟨_, _, made⟩ := then_eq_ok.mp made
  obtain ⟨_, _, made⟩ := then_eq_ok.mp made
  obtain ⟨_, _, made⟩ := then_eq_ok.mp made
  obtain ⟨created, createdAt, made⟩ := then_eq_ok.mp made
  obtain ⟨_, _, made⟩ := then_eq_ok.mp made
  obtain ⟨_, _, made⟩ := then_eq_ok.mp made
  obtain ⟨universal, placed, same⟩ := universalText_eq_ok_iff.mp createdAt
  cases made
  exact ⟨rfl, rfl, rfl, universal, placed, same.symm⟩

namespace Table

/-- The tables that saves and deletions lead to. -/
inductive Reached : Table → Prop
  | empty : Reached .empty
  | save {table after : Table} (inst : Instance) (reached : Reached table)
      (saves : table.save inst = .ok after) : Reached after
  | delete {table : Table} (id : String) (reached : Reached table) : Reached (table.delete id).2

/-- The rows of a table are those of instances, in their order. -/
def Holds (table : Table) (instances : List Instance) : Prop :=
  List.Forall₂ (fun row inst => Row.ofInstance inst = .ok row) table.rows instances

variable {table after : Table} {instances : List Instance}

theorem Holds.save {inst : Instance} (holds : table.Holds instances)
    (saves : table.save inst = .ok after) : after.Holds (MemoryStore.put inst instances) := by
  obtain ⟨row, made, saves⟩ := then_eq_ok.mp saves
  cases saves
  exact put_related Row.shows_of_ofInstance holds made

theorem Holds.delete (holds : table.Holds instances) (id : String) :
    (table.delete id).2.Holds (instances.filter (·.id != id)) :=
  filter_related Row.shows_of_ofInstance holds id

/-- Whatever is saved and deleted, the rows of the table are those of instances. -/
theorem Reached.holds (reached : table.Reached) : ∃ instances, table.Holds instances := by
  induction reached with
  | empty => exact ⟨[], .nil⟩
  | save inst _ saves ih =>
      obtain ⟨instances, holds⟩ := ih
      exact ⟨_, holds.save saves⟩
  | delete id _ ih =>
      obtain ⟨instances, holds⟩ := ih
      exact ⟨_, holds.delete id⟩

/-- What a table lists is in the order of creation. -/
theorem Holds.list (holds : table.Holds instances) {filter : Filter} (placed : filter.Placed) :
    ∃ rows ordered, MemoryStore.InCreationOrder (instances.filter filter.accepts) ordered ∧
      Table.Holds ⟨rows⟩ ordered ∧
      ∀ now, filter.limit ≤ Row.largestNumber → filter.offset ≤ Row.largestNumber →
        table.list filter now = (filter.window rows).mapM (·.toInstance now) := by
  obtain ⟨rows, shown, lists⟩ := list_related Row.shows_of_ofInstance holds placed
  exact ⟨rows, _, MemoryStore.inCreationOrder_sortByCreation _, shown, lists⟩

end Table

/-- A time has a text in universal time exactly if that form of it lies in the calendar.  The bytes
of one text stand before those of another exactly if its instant is the earlier one, and the texts
are the same exactly if the instants are.  So a table, which holds the rows of instances whatever is
saved and deleted, lists by these texts the window of the instances that the filter accepts by their
instants, in the order in which they were created. -/
theorem texts_in_order_of_instants :
    (∀ time, (∃ text, universalText time = .ok text) ↔
      0 ≤ time.instant ∧ time.instant < calendarMicroseconds) ∧
    (∀ time other text otherText, universalText time = .ok text →
      universalText other = .ok otherText →
        (Text.bytes text < Text.bytes otherText ↔ time.instant < other.instant) ∧
        (text = otherText ↔ time.instant = other.instant)) ∧
    (∀ table : Table, table.Reached → ∃ instances, table.Holds instances) ∧
    ∀ (table : Table) instances filter, table.Holds instances → filter.Placed →
      ∃ rows ordered, MemoryStore.InCreationOrder (instances.filter filter.accepts) ordered ∧
        Table.Holds ⟨rows⟩ ordered ∧
        ∀ now, filter.limit ≤ Row.largestNumber → filter.offset ≤ Row.largestNumber →
          table.list filter now = (filter.window rows).mapM (·.toInstance now) := by
  refine ⟨fun _ => universalText_isOk_iff, ?order, fun _ reached => reached.holds, ?listing⟩
  case order =>
    intro time other text otherText written written'
    exact ⟨bytes_universalText_lt_iff written written', universalText_eq_iff written written'⟩
  case listing =>
    intro table instances filter holds placed
    exact holds.list placed

/-- The text of a full second is shorter than that of the microsecond after it, and stands before
it. -/
theorem texts_in_order_of_instants_ahead :
    let later : Timestamp := ⟨82800000001, none, by decide⟩
    let bounded : Filter := { Filter.all with createdBefore := some later }
    universalText Store.ahead.createdAt = .ok "0001-01-01T23:00:00+00:00" ∧
      universalText later = .ok "0001-01-01T23:00:00.000001+00:00" ∧
      Text.bytes "0001-01-01T23:00:00+00:00" < Text.bytes "0001-01-01T23:00:00.000001+00:00" ∧
      ∃ table, Table.empty.save Store.ahead = .ok table ∧ (∃ instances, table.Holds instances) ∧
        table.Holds [Store.ahead] ∧ bounded.Placed ∧
        ∃ rows ordered, MemoryStore.InCreationOrder [Store.ahead] ordered ∧
          Table.Holds ⟨rows⟩ ordered ∧
          table.list bounded default = (bounded.window rows).mapM (·.toInstance default) := by
  intro later bounded
  have written : universalText Store.ahead.createdAt = .ok "0001-01-01T23:00:00+00:00" := by
    decide +kernel
  have written' : universalText later = .ok "0001-01-01T23:00:00.000001+00:00" := by
    decide +kernel
  have placed : bounded.Placed := by
    refine ⟨fun bound given => ?_, nofun⟩
    cases given
    exact Timestamp.hasUniversal_iff.mpr (by decide)
  obtain ⟨row, made, _⟩ := Row.keeps_of_storable Store.storable_ahead
  have saves : Table.empty.save Store.ahead = .ok ⟨[row]⟩ := by
    simp only [Table.save, made]
    rfl
  have holds : Table.Holds ⟨[row]⟩ [Store.ahead] := .cons made .nil
  obtain ⟨_, order, held, listing⟩ := texts_in_order_of_instants
  obtain ⟨rows, ordered, created, shown, lists⟩ := listing _ _ bounded holds placed
  refine ⟨written, written', ?_, _, saves, held _ (.save _ .empty saves), holds, placed, rows,
    ordered, created, shown, lists default (by decide) (by decide)⟩
  exact (order _ _ _ _ written written').1.mpr (by decide)

end Workflow
