/-!
Keyed values in sequence. A write to a present key keeps its place and a write
to a new key goes last, so the order is the order of first writes.
-/

namespace ReplayFlow

/-- Keyed values in the order of first writes. -/
abbrev Entries (α : Type) := List (String × α)

namespace Entries

variable {α β : Type}

def keys (es : Entries α) : List String := es.map Prod.fst

def values (es : Entries α) : List α := es.map Prod.snd

def get? : Entries α → String → Option α
  | [], _ => none
  | (k, v) :: rest, key => if k = key then some v else get? rest key

def contains (es : Entries α) (key : String) : Bool := (get? es key).isSome

def insert : Entries α → String → α → Entries α
  | [], key, value => [(key, value)]
  | (k, v) :: rest, key, value =>
    if k = key then (k, value) :: rest else (k, v) :: insert rest key value

def erase (es : Entries α) (key : String) : Entries α :=
  es.filter fun entry => entry.1 ≠ key

def insertAll (es : Entries α) (more : Entries α) : Entries α :=
  more.foldl (fun acc entry => insert acc entry.1 entry.2) es

/-- Reads a written sequence: a repeated key keeps its first place and its last value. -/
def ofList (written : List (String × α)) : Entries α := insertAll [] written

def mapValues (f : α → β) (es : Entries α) : Entries β :=
  es.map fun entry => (entry.1, f entry.2)

@[simp] theorem keys_mapValues (f : α → β) (es : Entries α) :
    keys (mapValues f es) = keys es := by
  simp [keys, mapValues, Function.comp_def]

theorem get?_eq_none_iff {es : Entries α} {key : String} :
    get? es key = none ↔ key ∉ keys es := by
  induction es with
  | nil => simp [get?, keys]
  | cons entry rest ih =>
    by_cases h : entry.1 = key
    · simp [get?, keys, h]
    · simp only [get?, h, if_false, ih, keys, List.map_cons, List.mem_cons, not_or]
      exact ⟨fun hr => ⟨fun e => h e.symm, hr⟩, fun hr => hr.2⟩

theorem keys_insert (es : Entries α) (key : String) (value : α) :
    keys (insert es key value) = if key ∈ keys es then keys es else keys es ++ [key] := by
  induction es with
  | nil => simp [insert, keys]
  | cons entry rest ih =>
    by_cases h : entry.1 = key
    · simp [insert, keys, h]
    · have h' : ¬ key = entry.1 := fun e => h e.symm
      simp only [keys] at ih
      simp only [insert, h, if_false, keys, List.map_cons, List.mem_cons, h', false_or, ih]
      split <;> simp_all

theorem get?_insert (es : Entries α) (key other : String) (value : α) :
    get? (insert es key value) other = if key = other then some value else get? es other := by
  induction es with
  | nil => simp [insert, get?]
  | cons entry rest ih =>
    by_cases h : entry.1 = key
    · by_cases ho : key = other <;> simp [insert, get?, h, ho]
    · by_cases ho : key = other
      · subst ho; simp [insert, get?, h, ih]
      · simp only [insert, h, if_false, get?, ih, ho]

theorem nodup_keys_insert {es : Entries α} (h : (keys es).Nodup) (key : String) (value : α) :
    (keys (insert es key value)).Nodup := by
  rw [keys_insert]
  split
  · exact h
  · rename_i hmem
    exact List.nodup_append.2 ⟨h, by simp, by
      intro a ha b hb e
      simp only [List.mem_singleton] at hb
      exact hmem (hb ▸ e ▸ ha)⟩

theorem nodup_keys_erase {es : Entries α} (h : (keys es).Nodup) (key : String) :
    (keys (erase es key)).Nodup :=
  h.sublist (List.Sublist.map _ List.filter_sublist)

theorem nodup_keys_insertAll (more : Entries α) {es : Entries α} (h : (keys es).Nodup) :
    (keys (insertAll es more)).Nodup := by
  induction more generalizing es with
  | nil => exact h
  | cons entry rest ih => exact ih (nodup_keys_insert h entry.1 entry.2)

end Entries

end ReplayFlow
