import ReplayFlow.Json.Basic
import ReplayFlow.Proofs.Data.OrderedMap
import ReplayFlow.Text.Integer

/-!
Values that can be written out. Writing goes down into arrays and objects, and there is
a limit to how far it can go; and it refuses integers of more digits than a reader
takes. A bound on either is a bound on whatever a value holds (`showable_arr_iff`,
`showable_obj_iff`).
-/

namespace ReplayFlow.Json

section

variable (scalar : Json → Nat) (raise : Nat)

mutual

/-- The greatest that the scalars of a value measure, raised by each array and object around
them. -/
def measure : Json → Nat
  | arr items => measureItems items + raise
  | obj fields => measureFields fields + raise
  | v => scalar v

def measureItems : List Json → Nat
  | [] => 0
  | v :: rest => max (measure v) (measureItems rest)

def measureFields : List (String × Json) → Nat
  | [] => 0
  | (_, v) :: rest => max (measure v) (measureFields rest)

end

variable {scalar raise} {items : List Json} {fields : Entries Json} {n : Nat}

theorem measure_arr_le_iff : measure scalar raise (arr items) ≤ n + raise ↔
    ∀ v ∈ items, measure scalar raise v ≤ n := by
  have hitems : measureItems scalar raise items ≤ n ↔ ∀ v ∈ items, measure scalar raise v ≤ n := by
    induction items with
    | nil => simp [measureItems]
    | cons v rest ih => rw [measureItems, Nat.max_le, ih, List.forall_mem_cons]
  rw [measure, Nat.add_le_add_iff_right, hitems]

theorem measure_obj_le_iff : measure scalar raise (obj fields) ≤ n + raise ↔
    ∀ field ∈ fields, measure scalar raise field.2 ≤ n := by
  have hfields : measureFields scalar raise fields ≤ n ↔
      ∀ field ∈ fields, measure scalar raise field.2 ≤ n := by
    induction fields with
    | nil => simp [measureFields]
    | cons field rest ih => rw [measureFields, Nat.max_le, ih, List.forall_mem_cons]
  rw [measure, Nat.add_le_add_iff_right, hfields]

end

/-- How many arrays and objects stand inside each other in a value. -/
def depth (v : Json) : Nat := measure (fun _ => 0) 1 v

/-- The digits of an integer. -/
def integerDigits : Json → Nat
  | int n => (Text.natText n.natAbs).length
  | _ => 0

/-- The most digits of an integer in a value. -/
def digits (v : Json) : Nat := measure integerDigits 0 v

/-- A value can be written out where writing goes down `limit` times. -/
structure Showable (limit : Nat) (v : Json) : Prop where
  depth : v.depth ≤ limit
  digits : v.digits ≤ Text.integerDigitLimit

instance (limit : Nat) (v : Json) : Decidable (Showable limit v) :=
  decidable_of_iff (v.depth ≤ limit ∧ v.digits ≤ Text.integerDigitLimit)
    ⟨fun h => ⟨h.1, h.2⟩, fun h => ⟨h.depth, h.digits⟩⟩

variable {items : List Json} {fields : Entries Json} {limit : Nat} {v w : Json}

theorem showable_arr_iff : Showable (limit + 1) (arr items) ↔ ∀ v ∈ items, Showable limit v :=
  ⟨fun h v hv => ⟨measure_arr_le_iff.1 h.depth v hv, measure_arr_le_iff.1 h.digits v hv⟩,
    fun h => ⟨measure_arr_le_iff.2 fun v hv => (h v hv).depth,
      measure_arr_le_iff.2 fun v hv => (h v hv).digits⟩⟩

theorem showable_obj_iff :
    Showable (limit + 1) (obj fields) ↔ ∀ field ∈ fields, Showable limit field.2 :=
  ⟨fun h v hv => ⟨measure_obj_le_iff.1 h.depth v hv, measure_obj_le_iff.1 h.digits v hv⟩,
    fun h => ⟨measure_obj_le_iff.2 fun v hv => (h v hv).depth,
      measure_obj_le_iff.2 fun v hv => (h v hv).digits⟩⟩

theorem showable_int_iff {n : Int} :
    Showable limit (int n) ↔ (Text.natText n.natAbs).length ≤ Text.integerDigitLimit :=
  ⟨fun h => h.digits, fun h => ⟨Nat.zero_le _, h⟩⟩

theorem showable_str (limit : Nat) (s : String) : Showable limit (str s) :=
  ⟨Nat.zero_le _, Nat.zero_le _⟩

namespace Showable

theorem mono {more : Nat} (h : Showable limit v) (hmore : limit ≤ more) : Showable more v :=
  ⟨Nat.le_trans h.depth hmore, h.digits⟩

/-- There is room for an array or object. -/
theorem exists_succ_of_obj (h : Showable limit (obj fields)) : ∃ n, limit = n + 1 := by
  have hdepth := h.depth
  rw [Json.depth, measure] at hdepth
  exact ⟨limit - 1, by omega⟩

theorem exists_succ_of_arr (h : Showable limit (arr items)) : ∃ n, limit = n + 1 := by
  have hdepth := h.depth
  rw [Json.depth, measure] at hdepth
  exact ⟨limit - 1, by omega⟩

theorem item (h : Showable limit (arr items)) (hv : v ∈ items) : Showable limit v := by
  obtain ⟨n, rfl⟩ := h.exists_succ_of_arr
  exact (showable_arr_iff.1 h v hv).mono (Nat.le_succ n)

theorem member {field : String × Json} (h : Showable limit (obj fields)) (hfield : field ∈ fields) :
    Showable limit field.2 := by
  obtain ⟨n, rfl⟩ := h.exists_succ_of_obj
  exact (showable_obj_iff.1 h field hfield).mono (Nat.le_succ n)

/-- What is looked up in an object leaves room for the object. -/
theorem field_of_succ (h : Showable (limit + 1) (obj fields)) (key : String) :
    Showable limit (Entries.field fields key) := by
  unfold Entries.field
  cases hget : Entries.get? fields key with
  | none => exact ⟨Nat.zero_le _, Nat.zero_le _⟩
  | some v => exact showable_obj_iff.1 h (key, v) (Entries.mem_of_get? hget)

theorem field (h : Showable limit (obj fields)) (key : String) :
    Showable limit (Entries.field fields key) := by
  obtain ⟨n, rfl⟩ := h.exists_succ_of_obj
  exact (h.field_of_succ key).mono (Nat.le_succ n)

theorem orElse (hv : Showable limit v) (hw : Showable limit w) :
    Showable limit (v.orElse w) := by
  unfold Json.orElse
  split
  · exact hv
  · exact hw

end Showable

end ReplayFlow.Json
