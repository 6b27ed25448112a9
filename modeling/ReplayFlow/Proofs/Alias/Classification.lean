import ReplayFlow.Proofs.Alias.Generation
import ReplayFlow.Proofs.Recording.Registry

/-!
The three things that become of a name. In a batch without a transaction of the
shared code, the names that each transaction gives by itself (`ownNames`) decide
the whole table (`Classified`): a name is shared, or disputed, or left where it
was.

A step only takes names out of the space of a transaction, so what is left of a
space is a part of it in the old order (`sublist_consolidate`); with distinct
names such a part is told by the names that are left.
-/

namespace ReplayFlow

namespace AliasTable

variable {t : AliasTable String} {name space path : String}

/-! ## What is left of a space -/

theorem space_put_of_ne (t : AliasTable String) {other : String} (h : space ≠ other)
    (name path : String) : (t.put space name path).space other = t.space other := by
  rw [AliasTable.space, put, OrderedMap.get?_insert, if_neg h]
  rfl

theorem space_remove (t : AliasTable String) (space name other : String) :
    (t.remove space name).space other =
      if space = other then (t.space other).erase name else t.space other := by
  rw [AliasTable.space, remove, OrderedMap.get?_insert]
  by_cases h : space = other
  · rw [if_pos h, if_pos h, Option.getD_some, h]
  · rw [if_neg h, if_neg h]
    rfl

theorem sublist_foldl_remove (tcodes : List String) (t : AliasTable String)
    (name space : String) :
    ((tcodes.foldl (fun acc tcode => acc.remove tcode name) t).space space).entries.Sublist
      (t.space space).entries := by
  induction tcodes generalizing t with
  | nil => exact .refl _
  | cons tcode rest ih =>
    refine (ih _).trans ?_
    rw [space_remove]
    split
    · exact List.filter_sublist
    · exact .refl _

theorem sublist_promote (t : AliasTable String) (name : String) (users : OrderedMap String)
    (h : space ≠ sharedSpace) :
    ((t.promote samePath name users).1.space space).entries.Sublist (t.space space).entries := by
  rcases promote_cases t name users with ⟨path, _, e⟩ | ⟨_, e⟩ | ⟨_, _, e⟩
  · rw [e]
    have hremoved := sublist_foldl_remove users.keys (t.put sharedSpace name path) name space
    rw [space_put_of_ne t h.symm] at hremoved
    exact hremoved
  · simp only [e, AliasTable.space, List.Sublist.refl]
  · simp only [e, List.Sublist.refl]

theorem sublist_promoteAll (t : AliasTable String) (named : Entries (OrderedMap String))
    (h : space ≠ sharedSpace) :
    ((t.promoteAll samePath named).1.space space).entries.Sublist (t.space space).entries := by
  induction named generalizing t with
  | nil => exact .refl _
  | cons entry rest ih =>
    rw [promoteAll_cons]
    exact (ih _).trans (sublist_promote t entry.1 entry.2 h)

/-- Sharing keeps the order of what it leaves to a transaction. -/
theorem sublist_consolidate (t : AliasTable String) (h : space ≠ sharedSpace) :
    (t.consolidate.1.space space).entries.Sublist (t.space space).entries := by
  rcases consolidate_eq t with e | ⟨e, _⟩
  · have hopen : (t.openSpace sharedSpace).space space = t.space space := by
      rw [AliasTable.space, openSpace, OrderedMap.get?_insert, if_neg h.symm]
      rfl
    rw [e, ← hopen]
    exact sublist_promoteAll _ _ h
  · simp only [e, List.Sublist.refl]

/-! ## The three classes -/

/-- The names of a table by those that each transaction gives by itself. -/
structure Classified (own : OrderedMap (OrderedMap String)) (table : AliasTable String) :
    Prop where
  shared : ∀ name path, table.find? sharedSpace name = some path ↔
    Agreed (definers own.entries name) path
  moved : ∀ name, (table.find? sharedSpace name).isSome = true →
    ∀ space, space ≠ sharedSpace → table.find? space name = none
  kept : ∀ tcode space, own.get? tcode = some space →
    (table.space tcode).entries =
      space.entries.filter fun entry => (table.find? sharedSpace entry.1).isNone
  conflicts : ∀ name users, table.conflicts.get? name = some users ↔
    Disputed (definers own.entries name) ∧ users.entries = definers own.entries name

/-- A table before names are shared: the spaces of the transactions behind an empty shared one. -/
structure Fresh (own : OrderedMap (OrderedMap String)) (t : AliasTable String) : Prop where
  spaces : t.spaces.entries = (sharedSpace, ∅) :: own.entries
  conflicts : t.conflicts = ∅

namespace Fresh

variable {own : OrderedMap (OrderedMap String)}

theorem not_mem (h : Fresh own t) : sharedSpace ∉ own.keys := by
  have hn := t.spaces.nodup
  rw [h.spaces] at hn
  exact (List.nodup_cons.1 hn).1

theorem ownSpaces (h : Fresh own t) : t.ownSpaces = own.entries := by
  rw [AliasTable.ownSpaces, h.spaces, List.filter_cons_of_neg (by simp)]
  refine List.filter_eq_self.2 ?_
  intro entry hmem
  have hne : entry.1 ≠ sharedSpace := fun e => h.not_mem (e ▸ List.mem_map_of_mem hmem)
  simpa using hne

theorem find?_shared (h : Fresh own t) (name : String) : t.find? sharedSpace name = none := by
  have hget : t.spaces.get? sharedSpace = some ∅ := by
    rw [OrderedMap.get?, h.spaces, Entries.get?, if_pos rfl]
  rw [find?, AliasTable.space, hget]
  rfl

theorem space_of_get? (h : Fresh own t) {tcode : String} {names : OrderedMap String}
    (hget : own.get? tcode = some names) : tcode ≠ sharedSpace ∧ t.space tcode = names := by
  have hne : tcode ≠ sharedSpace := by
    rintro rfl
    exact h.not_mem (OrderedMap.mem_keys_of_get? hget)
  refine ⟨hne, ?_⟩
  have hold : t.spaces.get? tcode = own.get? tcode := by
    rw [OrderedMap.get?, h.spaces, Entries.get?, if_neg hne.symm]
    rfl
  rw [AliasTable.space, hold, hget, Option.getD_some]

theorem find?_shared_consolidate (h : Fresh own t) :
    t.consolidate.1.find? sharedSpace name = some path ↔
      Agreed (definers own.entries name) path := by
  rw [← h.ownSpaces]
  by_cases hagreed : ∃ other, Agreed (definers t.ownSpaces name) other
  · obtain ⟨other, hother⟩ := hagreed
    rw [find?_consolidate_of_agreed hother, if_pos rfl, Option.some.injEq]
    constructor
    · rintro rfl
      exact hother
    · exact agreed_unique hother
  · have hkept : ∀ other, ¬ Agreed (definers t.ownSpaces name) other :=
      fun other h => hagreed ⟨other, h⟩
    rw [find?_consolidate_of_kept hkept, h.find?_shared]
    simp [hkept path]

/-- A name is in its space still just when it is not shared. -/
theorem find?_own_consolidate (h : Fresh own t) {tcode : String} {names : OrderedMap String}
    (hget : own.get? tcode = some names) (hname : names.get? name = some path) :
    t.consolidate.1.find? tcode name =
      if (t.consolidate.1.find? sharedSpace name).isNone then some path else none := by
  obtain ⟨hne, hspace⟩ := h.space_of_get? hget
  by_cases hagreed : ∃ other, Agreed (definers t.ownSpaces name) other
  · obtain ⟨other, hother⟩ := hagreed
    rw [find?_consolidate_of_agreed hother, find?_consolidate_of_agreed hother, if_neg hne,
      if_pos rfl]
    rfl
  · have hkept : ∀ other, ¬ Agreed (definers t.ownSpaces name) other :=
      fun other h => hagreed ⟨other, h⟩
    rw [find?_consolidate_of_kept hkept, find?_consolidate_of_kept hkept, h.find?_shared, find?,
      hspace, hname]
    rfl

theorem entries_consolidate (h : Fresh own t) {tcode : String} {names : OrderedMap String}
    (hget : own.get? tcode = some names) :
    (t.consolidate.1.space tcode).entries =
      names.entries.filter fun entry => (t.consolidate.1.find? sharedSpace entry.1).isNone := by
  obtain ⟨hne, hspace⟩ := h.space_of_get? hget
  have hsub := sublist_consolidate t hne
  rw [hspace] at hsub
  refine (Entries.eq_filter_of_sublist hsub names.nodup).trans (List.filter_congr ?_)
  rintro ⟨name, path⟩ hmem
  have hfind := h.find?_own_consolidate hget (OrderedMap.get?_eq_some_iff.2 hmem)
  have hiff : name ∈ Entries.keys (t.consolidate.1.space tcode).entries ↔
      (t.consolidate.1.find? sharedSpace name).isNone = true := by
    rw [← Entries.isSome_get?_iff]
    have hsome : (t.consolidate.1.find? tcode name).isSome = true ↔
        (t.consolidate.1.find? sharedSpace name).isNone = true := by
      rw [hfind]
      split <;> simp_all
    exact hsome
  rw [decide_eq_decide.2 hiff, Bool.decide_coe]

theorem conflicts_consolidate (h : Fresh own t) {users : OrderedMap String} :
    t.consolidate.1.conflicts.get? name = some users ↔
      Disputed (definers own.entries name) ∧ users.entries = definers own.entries name := by
  rw [← h.ownSpaces]
  by_cases hdisputed : Disputed (definers t.ownSpaces name)
  · obtain ⟨noted, hnoted, hentries⟩ := conflicts_consolidate_of_disputed hdisputed
    rw [hnoted, Option.some.injEq]
    constructor
    · rintro rfl
      exact ⟨hdisputed, hentries⟩
    · rintro ⟨_, hsame⟩
      exact OrderedMap.ext (hentries.trans hsame.symm)
  · rw [conflicts_consolidate_of_kept hdisputed, h.conflicts, OrderedMap.get?_empty]
    simp [hdisputed]

/-- Sharing classifies the names of a table that has shared none yet. -/
theorem classified_consolidate (h : Fresh own t) : Classified own t.consolidate.1 where
  shared _ _ := h.find?_shared_consolidate
  moved name hsome space hne := by
    obtain ⟨path, hpath⟩ := Option.isSome_iff_exists.1 hsome
    rw [h.find?_shared_consolidate, ← h.ownSpaces] at hpath
    rw [find?_consolidate_of_agreed hpath, if_neg hne]
  kept _ _ hget := h.entries_consolidate hget
  conflicts _ _ := h.conflicts_consolidate

end Fresh

end AliasTable

namespace Alias

open AliasTable (Classified Fresh)

variable {transactions : OrderedMap Transaction}

/-- The names that each transaction of a batch gives by itself. -/
def ownNames (transactions : OrderedMap Transaction) : OrderedMap (OrderedMap String) :=
  transactions.mapValues fun t => (Naming.ofTransaction (chooseHeads transactions.values) t).space

theorem fresh_unshared (h : sharedSpace ∉ transactions.keys) :
    Fresh (ownNames transactions) (unshared (chooseHeads transactions.values) transactions) := by
  have hn : (Entries.keys ((AliasTable.empty : AliasTable String).spaces.entries ++
      (ownNames transactions).entries)).Nodup := by
    rw [Entries.keys_append]
    refine List.nodup_append.2
      ⟨AliasTable.empty.spaces.nodup, (ownNames transactions).nodup, ?_⟩
    intro space hspace tcode htcode e
    have hshared : space = sharedSpace := List.mem_singleton.1 hspace
    have hkeys : (ownNames transactions).keys = transactions.keys := OrderedMap.keys_mapValues ..
    exact h (hkeys ▸ hshared ▸ e ▸ htcode)
  refine ⟨?_, rfl⟩
  rw [unshared, OrderedMap.entries_foldl_insert
    fun t => (Naming.ofTransaction (chooseHeads transactions.values) t).space]
  exact Entries.insertAll_of_disjoint _ _ hn

/-- **Each name of a batch is shared, disputed or left alone**, as its transactions define it. -/
theorem generate_classified (h : sharedSpace ∉ transactions.keys) :
    Classified (ownNames transactions) (generate transactions).table := by
  rw [table_generate]
  exact (fresh_unshared h).classified_consolidate

/-- Two transactions that share one name and dispute another. -/
def sampleBatch : OrderedMap Transaction :=
  (({} : Batch).addAll (Sample.documents.entries.map Entry.ofDocument)).1.transactions

theorem generate_classified_sample :
    sharedSpace ∉ sampleBatch.keys ∧
      Classified (ownNames sampleBatch) (generate sampleBatch).table ∧
      (generate sampleBatch).table.spaces.entries.map (fun space => (space.1, space.2.keys)) =
        [("main", ["filter.vbak-auart"]), ("va02", ["variant.execBtn"]),
          ("va01", ["variant.execBtn"])] ∧
      (generate sampleBatch).table.conflicts.keys = ["variant.execBtn"] := by
  have hkeys : sampleBatch.keys = ["va02", "va01"] := by rfl
  have hshared : sharedSpace ∉ sampleBatch.keys := by
    rw [hkeys]
    decide
  exact ⟨hshared, generate_classified hshared, by rfl, by rfl⟩

end Alias

end ReplayFlow
