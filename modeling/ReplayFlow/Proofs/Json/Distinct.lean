import ReplayFlow.Json.Basic
import ReplayFlow.Proofs.Data.OrderedMap

/-!
Documents with distinct keys. `Json.Distinct` goes down into the fields of an object
(`distinct_obj_iff`), so what is looked up in one has distinct keys too.
-/

namespace ReplayFlow.Json

variable {fields : Entries Json}

theorem distinctFields_iff : DistinctFields fields ↔ ∀ field ∈ fields, Distinct field.2 := by
  induction fields with
  | nil => simp [DistinctFields]
  | cons field rest ih => simp [DistinctFields, ih]

theorem distinct_obj_iff :
    Distinct (.obj fields) ↔ (Entries.keys fields).Nodup ∧ ∀ field ∈ fields, Distinct field.2 := by
  rw [Distinct, distinctFields_iff]

theorem distinct_field (h : Distinct (.obj fields)) (key : String) :
    Distinct (Entries.field fields key) := by
  unfold Entries.field
  cases hget : Entries.get? fields key with
  | none => exact trivial
  | some v => exact (distinct_obj_iff.1 h).2 (key, v) (Entries.mem_of_get? hget)

/-- The objects that keyed objects hold have distinct keys, and so do their members. -/
theorem distinct_of_mem_objects {es : Entries (Entries Json)}
    (h : Distinct (.obj (Entries.mapValues .obj es))) :
    (Entries.keys es).Nodup ∧ ∀ entry ∈ es, Distinct (.obj entry.2) := by
  rw [distinct_obj_iff, Entries.keys_mapValues] at h
  exact ⟨h.1, fun entry hmem => h.2 _ (List.mem_map_of_mem hmem)⟩

end ReplayFlow.Json
