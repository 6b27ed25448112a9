import ReplayFlow.Data.Entries

/-!
Ordered mappings from text keys: keyed values whose keys are distinct. What a
mapping holds is said by `get?` and `keys`.
-/

namespace ReplayFlow

/-- An ordered mapping: keyed values with distinct keys. -/
structure OrderedMap (α : Type) where
  entries : Entries α
  nodup : (Entries.keys entries).Nodup

namespace OrderedMap

variable {α β : Type}

def empty : OrderedMap α := ⟨[], List.nodup_nil⟩

instance : EmptyCollection (OrderedMap α) := ⟨empty⟩

instance : Inhabited (OrderedMap α) := ⟨empty⟩

def ofList (written : List (String × α)) : OrderedMap α :=
  ⟨Entries.ofList written, Entries.nodup_keys_insertAll written List.nodup_nil⟩

def singleton (key : String) (value : α) : OrderedMap α :=
  ⟨[(key, value)], by simp [Entries.keys]⟩

def keys (m : OrderedMap α) : List String := Entries.keys m.entries

def values (m : OrderedMap α) : List α := Entries.values m.entries

def size (m : OrderedMap α) : Nat := m.entries.length

def isEmpty (m : OrderedMap α) : Bool := m.entries.isEmpty

def get? (m : OrderedMap α) (key : String) : Option α := Entries.get? m.entries key

def contains (m : OrderedMap α) (key : String) : Bool := (m.get? key).isSome

def insert (m : OrderedMap α) (key : String) (value : α) : OrderedMap α :=
  ⟨Entries.insert m.entries key value, Entries.nodup_keys_insert m.nodup key value⟩

def erase (m : OrderedMap α) (key : String) : OrderedMap α :=
  ⟨Entries.erase m.entries key, Entries.nodup_keys_erase m.nodup key⟩

def mapValues (f : α → β) (m : OrderedMap α) : OrderedMap β :=
  ⟨Entries.mapValues f m.entries, by rw [Entries.keys_mapValues]; exact m.nodup⟩

@[ext] theorem ext {m n : OrderedMap α} (h : m.entries = n.entries) : m = n := by
  cases m; cases n; cases h; rfl

@[simp] theorem entries_empty : (∅ : OrderedMap α).entries = [] := rfl

@[simp] theorem keys_mapValues (f : α → β) (m : OrderedMap α) :
    (m.mapValues f).keys = m.keys :=
  Entries.keys_mapValues f m.entries

theorem get?_insert (m : OrderedMap α) (key other : String) (value : α) :
    (m.insert key value).get? other = if key = other then some value else m.get? other :=
  Entries.get?_insert m.entries key other value

theorem keys_insert (m : OrderedMap α) (key : String) (value : α) :
    (m.insert key value).keys = if key ∈ m.keys then m.keys else m.keys ++ [key] :=
  Entries.keys_insert m.entries key value

end OrderedMap

end ReplayFlow
