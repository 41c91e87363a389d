import Workflow.Proofs.Rows

/-!
# Records that are read back

The record of an instance holds the document of its definition, its failures and the texts of its
times, each in a form of its own, and leaves it to the reader what stands for nothing.  From the
record, and from the JSON text of the record, the same instance is read: naive times stay naive, and
offsets stay as they are.
-/

namespace Workflow

open Time

namespace Instance

variable {inst : Instance}

/-- A JSON text can hold the record of an instance. -/
theorem isJson_toRecord (regular : inst.Regular) : (Value.dict inst.toRecord).isJson = true := by
  obtain ⟨step?, step⟩ := regular.currentStep
  obtain ⟨message?, message⟩ := regular.errorMessage
  have optional (text? : Option String) : (Value.ofText? text?).isJson = true := by
    cases text? <;> rfl
  apply Value.holdJson_ofFields
  · simp
  · simp only [List.forall_mem_cons]
    refine ⟨rfl, rfl, rfl, ?_, rfl, regular.data, ?_, ?_, ?_, ?_, ?_, rfl, rfl,
      List.forall_mem_nil _⟩
    · exact Definition.holdJson_toDict regular.json
    · rw [step]
      exact optional step?
    · exact regular.completed.isJson
    · exact areJson_failures inst.failures
    · exact regular.skipped.isJson
    · rw [message]
      exact optional message?

/-- An instance whose times have no offset or one of whole minutes is read from its record as it is,
and from the JSON text of its record too. -/
theorem read_back_from_record (regular : inst.Regular) (created : inst.createdAt.OnMinutes)
    (updated : inst.updatedAt.OnMinutes) (now : Timestamp) :
    ofRecord inst.toRecord now = .ok inst ∧
      ∃ text, Json.write (.dict inst.toRecord) = .ok text ∧
        ∃ record, Json.read text = .ok (.dict record) ∧ ofRecord record now = .ok inst := by
  have json := isJson_toRecord regular
  have reads : ofRecord inst.toRecord now = .ok inst :=
    ofRecord_fieldsAt regular now (Timestamp.read?_text created) (Timestamp.read?_text updated)
  exact ⟨reads, _, Json.write_eq_render json, _, Json.read_render json, reads⟩

/-- An order that failed, with a naive time and times on clocks ahead of universal time and behind
it. -/
def lost : Instance :=
  let made : Timestamp := ⟨3600000001, none, by decide⟩
  let failed : Timestamp := ⟨7200000000, some 19800, by decide⟩
  let updated : Timestamp := ⟨7200000500, some (-12600), by decide⟩
  { id := "w", definition := .order, state := .failed
    data := Dict.ofFields [("total", .float (.ofRatio false 199 10)), ("items", .list [.int 7])]
    currentStep := .text "ship", completed := [.text "reserve"]
    failures := [⟨"ship", "parcel lost", failed⟩], skipped := []
    errorMessage := .text "parcel lost", createdAt := made, updatedAt := updated }

theorem read_back_from_record_lost :
    lost.Regular ∧ lost.createdAt.OnMinutes ∧ lost.updatedAt.OnMinutes ∧
      ofRecord lost.toRecord default = .ok lost ∧
      ∃ text, Json.write (.dict lost.toRecord) = .ok text ∧
        ∃ record, Json.read text = .ok (.dict record) ∧ ofRecord record default = .ok lost := by
  have minutes (offset : Int) (whole : Timestamp.IsMinutes offset) :
      ∀ other ∈ some offset, Timestamp.IsMinutes other := by
    rintro _ ⟨⟩
    exact whole
  have read : Definition.order.IsRead := by
    refine ⟨.document (.dict Definition.orderDocument), rfl, ?_⟩
    rintro _ ⟨⟩
  have regular : lost.Regular :=
    { read
      distinct := by decide
      json := by decide +kernel
      data := by decide +kernel
      currentStep := ⟨some "ship", rfl⟩
      completed := ⟨["reserve"], rfl⟩
      skipped := ⟨[], rfl⟩
      errorMessage := ⟨some "parcel lost", rfl⟩
      failedAt := List.forall_mem_singleton.mpr (minutes 19800 (by decide)) }
  have created : lost.createdAt.OnMinutes := by
    rintro _ ⟨⟩
  have updated : lost.updatedAt.OnMinutes := minutes (-12600) (by decide)
  exact ⟨regular, created, updated, read_back_from_record regular created updated default⟩

end Instance

end Workflow
