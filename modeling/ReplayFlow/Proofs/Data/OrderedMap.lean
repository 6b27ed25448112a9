import ReplayFlow.Data.OrderedMap

/-!
Laws of keyed sequences and ordered mappings: what `get?` sees after each
operation, and the cases in which a write keeps the sequence or only appends to
it. A mapping is read through `get?` where its order does not matter and through
`entries` where it does.
-/

namespace ReplayFlow

namespace Entries

variable {α β : Type}

theorem mem_keys_of_mem {es : Entries α} {key : String} {value : α} (h : (key, value) ∈ es) :
    key ∈ keys es :=
  List.mem_map.2 ⟨(key, value), h, rfl⟩

theorem mem_keys_iff {es : Entries α} {key : String} :
    key ∈ keys es ↔ ∃ value, (key, value) ∈ es := by
  constructor
  · intro h
    obtain ⟨⟨k, v⟩, hmem, rfl⟩ := List.mem_map.1 h
    exact ⟨v, hmem⟩
  · rintro ⟨value, h⟩
    exact mem_keys_of_mem h

theorem mem_of_get? {es : Entries α} {key : String} {value : α} (h : get? es key = some value) :
    (key, value) ∈ es := by
  induction es with
  | nil => simp [get?] at h
  | cons entry rest ih =>
    obtain ⟨k, v⟩ := entry
    by_cases hk : k = key
    · simp only [get?, hk, if_true, Option.some.injEq] at h
      simp [hk, h]
    · simp only [get?, hk, if_false] at h
      exact List.mem_cons_of_mem _ (ih h)

theorem get?_of_mem {es : Entries α} (hn : (keys es).Nodup) {key : String} {value : α}
    (h : (key, value) ∈ es) : get? es key = some value := by
  induction es with
  | nil => simp at h
  | cons entry rest ih =>
    obtain ⟨k, v⟩ := entry
    obtain ⟨hfresh, hrest⟩ := List.nodup_cons.1 hn
    rcases List.mem_cons.1 h with e | hmem
    · cases e
      simp [get?]
    · have hk : k ≠ key := fun e => hfresh (e ▸ mem_keys_of_mem hmem)
      simp [get?, hk, ih hrest hmem]

theorem get?_eq_some_iff {es : Entries α} (hn : (keys es).Nodup) {key : String} {value : α} :
    get? es key = some value ↔ (key, value) ∈ es :=
  ⟨mem_of_get?, get?_of_mem hn⟩

theorem isSome_get?_iff {es : Entries α} {key : String} :
    (get? es key).isSome ↔ key ∈ keys es := by
  rw [← Option.ne_none_iff_isSome, ne_eq, get?_eq_none_iff, Classical.not_not]

theorem exists_get?_of_mem_keys {es : Entries α} {key : String} (h : key ∈ keys es) :
    ∃ value, get? es key = some value :=
  Option.isSome_iff_exists.1 (isSome_get?_iff.2 h)

theorem mem_values_of_get? {es : Entries α} {key : String} {value : α}
    (h : get? es key = some value) : value ∈ values es :=
  List.mem_map.2 ⟨(key, value), mem_of_get? h, rfl⟩

theorem keys_append (es more : Entries α) : keys (es ++ more) = keys es ++ keys more := by
  simp [keys]

theorem get?_append (es more : Entries α) (key : String) :
    get? (es ++ more) key = (get? es key).or (get? more key) := by
  induction es with
  | nil => simp [get?]
  | cons entry rest ih =>
    by_cases h : entry.1 = key <;> simp [get?, h, ih]

theorem get?_mapValues (f : α → β) (es : Entries α) (key : String) :
    get? (mapValues f es) key = (get? es key).map f := by
  induction es with
  | nil => rfl
  | cons entry rest ih =>
    simp only [mapValues] at ih
    by_cases h : entry.1 = key <;> simp [mapValues, get?, h, ih]

/-- Distinct names for the keys do not change what is found. -/
theorem get?_map_key {f : String → String} (hf : ∀ a b, f a = f b ↔ a = b) (es : Entries α)
    (key : String) : get? (es.map fun entry => (f entry.1, entry.2)) (f key) = get? es key := by
  induction es with
  | nil => rfl
  | cons entry rest ih =>
    by_cases h : entry.1 = key <;> simp [get?, hf, h, ih]

theorem mapValues_mapValues {γ : Type} (f : α → β) (g : β → γ) (es : Entries α) :
    mapValues g (mapValues f es) = mapValues (fun value => g (f value)) es := by
  rw [mapValues, mapValues, List.map_map]
  rfl

theorem mapValues_inj {f : α → β} (hf : ∀ a b, f a = f b → a = b) {es more : Entries α} :
    mapValues f es = mapValues f more ↔ es = more := by
  refine List.map_inj_right fun entry other h => ?_
  obtain ⟨hkey, hvalue⟩ := Prod.mk.inj h
  exact Prod.ext hkey (hf _ _ hvalue)

theorem get?_filter {es : Entries α} (hn : (keys es).Nodup) (p : String × α → Bool)
    (key : String) :
    get? (es.filter p) key = (get? es key).filter fun value => p (key, value) := by
  induction es with
  | nil => rfl
  | cons entry rest ih =>
    obtain ⟨k, v⟩ := entry
    obtain ⟨hfresh, hrest⟩ := List.nodup_cons.1 hn
    by_cases hk : k = key
    · subst hk
      have hnone : get? rest k = none := get?_eq_none_iff.2 hfresh
      by_cases hp : p (k, v) <;> simp [get?, hp, ih hrest, hnone, Option.filter]
    · by_cases hp : p (k, v) <;> simp [get?, hk, hp, ih hrest]

theorem get?_erase {es : Entries α} (hn : (keys es).Nodup) (key other : String) :
    get? (erase es key) other = if key = other then none else get? es other := by
  rw [erase, get?_filter hn]
  by_cases h : key = other
  · cases get? es other <;> simp [h, Option.filter]
  · have h' : ¬ other = key := fun e => h e.symm
    cases get? es other <;> simp [h, h', Option.filter]

theorem get?_erase_of_ne {key other : String} (h : key ≠ other) (es : Entries α) :
    get? (erase es key) other = get? es other := by
  induction es with
  | nil => rfl
  | cons entry rest ih =>
    rw [erase] at ih ⊢
    by_cases hentry : entry.1 = key
    · have hother : entry.1 ≠ other := fun e => h (hentry.symm.trans e)
      rw [List.filter_cons_of_neg (by simp [hentry]), ih]
      simp [get?, hother]
    · rw [List.filter_cons_of_pos (by simp [hentry]), get?, get?, ih]

/-- Writing what is there already changes nothing. -/
theorem insert_of_get? {es : Entries α} {key : String} {value : α}
    (h : get? es key = some value) : insert es key value = es := by
  induction es with
  | nil => simp [get?] at h
  | cons entry rest ih =>
    obtain ⟨k, v⟩ := entry
    by_cases hk : k = key
    · simp only [get?, hk, if_true, Option.some.injEq] at h
      simp [insert, hk, h]
    · simp only [get?, hk, if_false] at h
      simp [insert, hk, ih h]

theorem insert_of_not_mem {es : Entries α} {key : String} (h : key ∉ keys es) (value : α) :
    insert es key value = es ++ [(key, value)] := by
  induction es with
  | nil => rfl
  | cons entry rest ih =>
    obtain ⟨k, v⟩ := entry
    obtain ⟨hne, hrest⟩ : key ≠ k ∧ key ∉ keys rest := by simpa [keys] using h
    simp [insert, Ne.symm hne, ih hrest]

/-- Of two writes to one key the second is left. -/
theorem insert_insert (es : Entries α) (key : String) (value other : α) :
    insert (insert es key value) key other = insert es key other := by
  induction es with
  | nil => simp [insert]
  | cons entry rest ih =>
    by_cases h : entry.1 = key <;> simp [insert, h, ih]

theorem mapValues_insert (f : α → β) (es : Entries α) (key : String) (value : α) :
    mapValues f (insert es key value) = insert (mapValues f es) key (f value) := by
  induction es with
  | nil => rfl
  | cons entry rest ih =>
    simp only [mapValues] at ih
    by_cases h : entry.1 = key <;> simp [insert, mapValues, h, ih]

/-- Fresh and distinct keys are appended as they come. -/
theorem insertAll_of_disjoint (es more : Entries α) (h : (keys (es ++ more)).Nodup) :
    insertAll es more = es ++ more := by
  induction more generalizing es with
  | nil => simp [insertAll]
  | cons entry rest ih =>
    have hfresh : entry.1 ∉ keys es := by
      intro hmem
      rw [keys_append] at h
      exact (List.nodup_append.1 h).2.2 _ hmem entry.1 (by simp [keys]) rfl
    have hstep := ih (es ++ [entry]) (by simpa using h)
    simpa [insertAll, insert_of_not_mem hfresh] using hstep

/-- Writes that leave the first key alone leave the first entry. -/
theorem insertAll_cons {entry : String × α} (es : Entries α) {more : Entries α}
    (h : entry.1 ∉ keys more) : insertAll (entry :: es) more = entry :: insertAll es more := by
  induction more generalizing es with
  | nil => rfl
  | cons first rest ih =>
    obtain ⟨hne, hrest⟩ : entry.1 ≠ first.1 ∧ entry.1 ∉ keys rest := by simpa [keys] using h
    have hstep : insert (entry :: es) first.1 first.2 = entry :: insert es first.1 first.2 := by
      rw [insert, if_neg hne]
    have hrun := ih (insert es first.1 first.2) hrest
    rw [← hstep] at hrun
    exact hrun

theorem ofList_of_nodup {es : Entries α} (h : (keys es).Nodup) : ofList es = es := by
  simpa [ofList] using insertAll_of_disjoint [] es (by simpa using h)

theorem nodup_of_keys {es : Entries α} (h : (keys es).Nodup) : es.Nodup :=
  List.Pairwise.of_map Prod.fst (fun _ _ hne e => hne (congrArg Prod.fst e)) h

/-- A lookup does not see the order of distinct keys. -/
theorem get?_perm {es more : Entries α} (h : es.Perm more) (hn : (keys es).Nodup)
    (key : String) : get? es key = get? more key := by
  have hm : (keys more).Nodup := (h.map Prod.fst).nodup_iff.1 hn
  apply Option.ext
  intro value
  rw [get?_eq_some_iff hn, get?_eq_some_iff hm, h.mem_iff]

/-- Keys are kept distinct by any choice among the entries. -/
theorem nodup_keys_filter {es : Entries α} (h : (keys es).Nodup) (p : String × α → Bool) :
    (keys (es.filter p)).Nodup :=
  h.sublist (List.filter_sublist.map _)

/-- Edits of one value each, under distinct keys, come to an edit of the values of these keys. -/
theorem get?_foldl_edit {edit : Entries α → String → Entries α} {g : α → α}
    (h : ∀ es key other, get? (edit es key) other =
      if key = other then (get? es other).map g else get? es other)
    {edited : List String} (hn : edited.Nodup) (es : Entries α) (key : String) :
    get? (edited.foldl edit es) key =
      if key ∈ edited then (get? es key).map g else get? es key := by
  induction edited generalizing es with
  | nil => rfl
  | cons first rest ih =>
    obtain ⟨hfresh, hrest⟩ := List.nodup_cons.1 hn
    rw [List.foldl_cons, ih hrest, h]
    by_cases hkey : first = key
    · subst hkey
      rw [if_neg hfresh, if_pos rfl, if_pos (List.mem_cons_self ..)]
    · have hmem : key ∈ first :: rest ↔ key ∈ rest := by simp [Ne.symm hkey]
      simp only [if_neg hkey, hmem]

/-! ### What many writes leave -/

theorem mem_insert {es : Entries α} {key : String} {value : α} {entry : String × α}
    (h : entry ∈ insert es key value) : entry = (key, value) ∨ entry ∈ es := by
  induction es with
  | nil => exact .inl (List.mem_singleton.1 h)
  | cons first rest ih =>
    simp only [insert] at h
    split at h
    · rename_i hk
      rcases List.mem_cons.1 h with e | hrest
      · exact .inl (by rw [e, hk])
      · exact .inr (List.mem_cons_of_mem _ hrest)
    · rcases List.mem_cons.1 h with e | hrest
      · exact .inr (e ▸ List.mem_cons_self ..)
      · exact (ih hrest).imp id (List.mem_cons_of_mem _)

theorem mem_insertAll {es more : Entries α} {entry : String × α}
    (h : entry ∈ insertAll es more) : entry ∈ es ∨ entry ∈ more := by
  induction more generalizing es with
  | nil => exact .inl h
  | cons first rest ih =>
    have hstep : entry ∈ insertAll (insert es first.1 first.2) rest := h
    rcases ih hstep with hes | hrest
    · rcases mem_insert hes with rfl | hes
      · exact .inr (List.mem_cons_self ..)
      · exact .inl hes
    · exact .inr (List.mem_cons_of_mem _ hrest)

/-- A written sequence makes up no entries. -/
theorem mem_of_mem_ofList {written : List (String × α)} {entry : String × α}
    (h : entry ∈ ofList written) : entry ∈ written :=
  (mem_insertAll h).resolve_left List.not_mem_nil

theorem keys_insertAll (es more : Entries α) :
    keys (insertAll es more) = keys es ++ ((keys more).removeAll (keys es)).eraseDups := by
  induction more generalizing es with
  | nil => simp [insertAll, keys, List.removeAll]
  | cons first rest ih =>
    have hstep : insertAll es (first :: rest) = insertAll (insert es first.1 first.2) rest := rfl
    have hkeys : keys (first :: rest) = first.1 :: keys rest := rfl
    rw [hstep, ih, keys_insert, hkeys]
    by_cases h : first.1 ∈ keys es
    · simp [h, List.removeAll]
    · have hfilter : (keys rest).removeAll (keys es ++ [first.1]) =
          ((keys rest).removeAll (keys es)).filter fun key => !key == first.1 := by
        simp only [List.removeAll, List.filter_filter]
        refine List.filter_congr fun key _ => ?_
        by_cases hkey : key = first.1 <;> simp [hkey]
      have hcons : (first.1 :: keys rest).removeAll (keys es) =
          first.1 :: (keys rest).removeAll (keys es) := by
        simp [List.removeAll, h]
      rw [if_neg h, hfilter, hcons, List.eraseDups_cons, List.append_assoc, List.singleton_append]

/-- The order of first writes. -/
theorem keys_ofList (written : List (String × α)) :
    keys (ofList written) = (keys written).eraseDups := by
  have hnone : (keys written).removeAll (keys ([] : Entries α)) = keys written :=
    List.filter_eq_self.2 fun _ _ => rfl
  rw [ofList, keys_insertAll, hnone]
  rfl

/-- What is left of distinct keys is told by the keys that are left. -/
theorem eq_filter_of_sublist {es more : Entries α} (h : es.Sublist more)
    (hn : (keys more).Nodup) : es = more.filter fun entry => entry.1 ∈ keys es := by
  induction h with
  | slnil => rfl
  | @cons es more entry hsub ih =>
    obtain ⟨hfresh, hrest⟩ := List.nodup_cons.1 hn
    have hgone : entry.1 ∉ keys es := fun hmem => hfresh ((hsub.map Prod.fst).subset hmem)
    rw [List.filter_cons_of_neg (by simpa using hgone)]
    exact ih hrest
  | @cons_cons es more entry hsub ih =>
    obtain ⟨hfresh, hrest⟩ := List.nodup_cons.1 hn
    rw [List.filter_cons_of_pos (by simp [keys])]
    refine congrArg (entry :: ·) ((ih hrest).trans (List.filter_congr ?_))
    intro other hother
    have hne : other.1 ≠ entry.1 := fun e => hfresh (e ▸ List.mem_map_of_mem hother)
    have hkeys : keys (entry :: es) = entry.1 :: keys es := rfl
    simp [hkeys, hne]

end Entries

namespace OrderedMap

variable {α β : Type}

@[simp] theorem get?_empty (key : String) : (∅ : OrderedMap α).get? key = none := rfl

/-- The entries that a test lets through. -/
def filter (p : String × α → Bool) (m : OrderedMap α) : OrderedMap α :=
  ⟨m.entries.filter p, Entries.nodup_keys_filter m.nodup p⟩

theorem get?_eq_some_iff {m : OrderedMap α} {key : String} {value : α} :
    m.get? key = some value ↔ (key, value) ∈ m.entries :=
  Entries.get?_eq_some_iff m.nodup

theorem eq_of_key_eq {m : OrderedMap α} {entry other : String × α} (h : entry ∈ m.entries)
    (hother : other ∈ m.entries) (hkey : entry.1 = other.1) : entry = other := by
  have hget := get?_eq_some_iff.2 h
  rw [hkey, get?_eq_some_iff.2 hother, Option.some.injEq] at hget
  exact Prod.ext hkey hget.symm

theorem get?_eq_none_iff {m : OrderedMap α} {key : String} :
    m.get? key = none ↔ key ∉ m.keys :=
  Entries.get?_eq_none_iff

theorem contains_iff {m : OrderedMap α} {key : String} :
    m.contains key = true ↔ key ∈ m.keys :=
  Entries.isSome_get?_iff

theorem exists_get?_of_mem_keys {m : OrderedMap α} {key : String} (h : key ∈ m.keys) :
    ∃ value, m.get? key = some value :=
  Entries.exists_get?_of_mem_keys h

theorem mem_keys_of_get? {m : OrderedMap α} {key : String} {value : α}
    (h : m.get? key = some value) : key ∈ m.keys :=
  Entries.mem_keys_of_mem (get?_eq_some_iff.1 h)

theorem mem_values_of_get? {m : OrderedMap α} {key : String} {value : α}
    (h : m.get? key = some value) : value ∈ m.values :=
  Entries.mem_values_of_get? h

theorem mem_values_iff {m : OrderedMap α} {value : α} :
    value ∈ m.values ↔ ∃ key, m.get? key = some value := by
  constructor
  · intro h
    obtain ⟨⟨key, _⟩, hentry, rfl⟩ := List.mem_map.1 h
    exact ⟨key, get?_eq_some_iff.2 hentry⟩
  · rintro ⟨key, hget⟩
    exact mem_values_of_get? hget

@[simp] theorem get?_mapValues (f : α → β) (m : OrderedMap α) (key : String) :
    (m.mapValues f).get? key = (m.get? key).map f :=
  Entries.get?_mapValues f m.entries key

theorem get?_erase (m : OrderedMap α) (key other : String) :
    (m.erase key).get? other = if key = other then none else m.get? other :=
  Entries.get?_erase m.nodup key other

theorem insert_insert (m : OrderedMap α) (key : String) (value other : α) :
    (m.insert key value).insert key other = m.insert key other :=
  ext (Entries.insert_insert m.entries key value other)

theorem mapValues_insert (f : α → β) (m : OrderedMap α) (key : String) (value : α) :
    (m.insert key value).mapValues f = (m.mapValues f).insert key (f value) :=
  ext (Entries.mapValues_insert f m.entries key value)

theorem entries_insert_of_not_mem {m : OrderedMap α} {key : String} (h : key ∉ m.keys)
    (value : α) : (m.insert key value).entries = m.entries ++ [(key, value)] :=
  Entries.insert_of_not_mem h value

theorem ofList_entries {es : Entries α} (h : (Entries.keys es).Nodup) :
    ofList es = ⟨es, h⟩ :=
  ext (Entries.ofList_of_nodup h)

theorem entries_foldl_insert (f : α → β) (items : Entries α) (m : OrderedMap β) :
    (items.foldl (fun acc item => acc.insert item.1 (f item.2)) m).entries =
      Entries.insertAll m.entries (Entries.mapValues f items) := by
  induction items generalizing m with
  | nil => rfl
  | cons item rest ih =>
    rw [List.foldl_cons, ih]
    rfl

theorem ofList_eq_foldl (written : List (String × α)) :
    ofList written = written.foldl (fun acc entry => acc.insert entry.1 entry.2) ∅ := by
  have hwrites := entries_foldl_insert id written (∅ : OrderedMap α)
  have hsame : Entries.mapValues id written = written := List.map_id written
  rw [hsame] at hwrites
  exact ext hwrites.symm

/-- Writing down the values of a mapping keeps its order. -/
theorem ofList_mapValues (f : α → β) (m : OrderedMap α) :
    ofList (Entries.mapValues f m.entries) = m.mapValues f :=
  ofList_entries (m.mapValues f).nodup

theorem length_keys (m : OrderedMap α) : m.keys.length = m.size := by
  simp [keys, Entries.keys, size]

end OrderedMap

end ReplayFlow
