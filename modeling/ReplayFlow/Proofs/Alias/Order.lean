import ReplayFlow.Proofs.Alias.Generation
import ReplayFlow.Proofs.Recording.Registry

/-!
The alias table does not depend on the order of its batch. Two orders may pick
different heads, so their tables may hold different written paths; but both are
the table of control paths as they are, each path written under the heads of
its own run (`rewritten_generate`). Sharing sees paths only through equality,
which the writing of control paths keeps (`Rewritten.consolidate`).
-/

namespace ReplayFlow

namespace AliasTable

variable {t u : AliasTable String} {f : String → String} {name tcode path : String}

/-- The path that a transaction gives to a disputed name. -/
def conflict? (t : AliasTable String) (name tcode : String) : Option String :=
  (t.conflicts.get? name).bind fun users => users.get? tcode

/-- Both tables have the same names in each space, and the same disputed names with the
same transactions. -/
structure SameNames (t u : AliasTable String) : Prop where
  names : ∀ space name, name ∈ (t.space space).keys ↔ name ∈ (u.space space).keys
  disputed : ∀ name, name ∈ t.conflicts.keys ↔ name ∈ u.conflicts.keys
  users : ∀ name tcode, (t.conflict? name tcode).isSome = (u.conflict? name tcode).isSome

/-- Every entry of one table stands for the same control path in the other, each table
expanded with its own heads. -/
structure SamePaths (t u : AliasTable String) : Prop where
  names : ∀ space name,
    (t.find? space name).map (Alias.expand t.heads) =
      (u.find? space name).map (Alias.expand u.heads)
  users : ∀ name tcode,
    (t.conflict? name tcode).map (Alias.expand t.heads) =
      (u.conflict? name tcode).map (Alias.expand u.heads)

/-! ## Rewritten tables -/

/-- Table `u` is table `t` with each path rewritten, whatever the order of either. -/
structure Rewritten (f : String → String) (t u : AliasTable String) : Prop where
  names : ∀ space name, u.find? space name = (t.find? space name).map f
  disputed : ∀ name, (u.conflicts.get? name).isSome = (t.conflicts.get? name).isSome
  users : ∀ name tcode, u.conflict? name tcode = (t.conflict? name tcode).map f

/-- The rewriting tells the paths of each name apart. -/
def Separates (f : String → String) (t : AliasTable String) : Prop :=
  ∀ name space space' path path', t.find? space name = some path →
    t.find? space' name = some path' → f path = f path' → path = path'

theorem definers_perm (h : Rewritten f t u) (name : String) :
    (definers u.ownSpaces name).Perm (Entries.mapValues f (definers t.ownSpaces name)) := by
  have hnodup := nodup_keys_definers t name
  rw [← Entries.keys_mapValues f] at hnodup
  refine (List.perm_ext_iff_of_nodup (Entries.nodup_of_keys (nodup_keys_definers u name))
    (Entries.nodup_of_keys hnodup)).2 ?_
  rintro ⟨tcode, path⟩
  simp only [mem_definers_ownSpaces, h.names, Entries.mapValues, List.mem_map, Prod.exists,
    Prod.mk.injEq, Option.map_eq_some_iff]
  constructor
  · rintro ⟨hne, path', hfind, rfl⟩
    exact ⟨tcode, path', ⟨hne, hfind⟩, rfl, rfl⟩
  · rintro ⟨_, path', ⟨hne, hfind⟩, rfl, rfl⟩
    exact ⟨hne, path', hfind, rfl⟩

theorem length_definers (h : Rewritten f t u) (name : String) :
    (definers u.ownSpaces name).length = (definers t.ownSpaces name).length := by
  rw [(definers_perm h name).length_eq, Entries.mapValues, List.length_map]

/-- Each user of a name has the rewritten path in the rewritten table. -/
theorem mem_definers_iff (h : Rewritten f t u) :
    (∃ user ∈ definers u.ownSpaces name, user.2 = path) ↔
      ∃ user ∈ definers t.ownSpaces name, f user.2 = path := by
  constructor
  · rintro ⟨user, hmem, rfl⟩
    obtain ⟨user', hmem', rfl⟩ := List.mem_map.1 ((definers_perm h name).mem_iff.1 hmem)
    exact ⟨user', hmem', rfl⟩
  · rintro ⟨user, hmem, rfl⟩
    exact ⟨_, (definers_perm h name).mem_iff.2 (List.mem_map.2 ⟨user, hmem, rfl⟩), rfl⟩

theorem eq_of_definers (hsep : Separates f t) {a b : String × String}
    (ha : a ∈ definers t.ownSpaces name) (hb : b ∈ definers t.ownSpaces name)
    (h : f a.2 = f b.2) : a.2 = b.2 :=
  hsep name a.1 b.1 a.2 b.2 (mem_definers_ownSpaces.1 ha).2 (mem_definers_ownSpaces.1 hb).2 h

theorem agreed_rewritten (h : Rewritten f t u) (hagreed : Agreed (definers t.ownSpaces name) path) :
    Agreed (definers u.ownSpaces name) (f path) := by
  refine ⟨length_definers h name ▸ hagreed.1, ?_⟩
  intro user hmem
  obtain ⟨user', hmem', e⟩ := (mem_definers_iff h).1 ⟨user, hmem, rfl⟩
  rw [← e, hagreed.2 user' hmem']

theorem agreed_of_rewritten (h : Rewritten f t u) (hsep : Separates f t)
    (hagreed : Agreed (definers u.ownSpaces name) path) :
    ∃ path', Agreed (definers t.ownSpaces name) path' := by
  have hlen := hagreed.1
  rw [length_definers h] at hlen
  obtain ⟨first, rest, e⟩ := List.exists_cons_of_length_pos (Nat.lt_of_lt_of_le Nat.zero_lt_two hlen)
  have hall : ∀ user ∈ definers t.ownSpaces name, f user.2 = path := by
    intro user hmem
    obtain ⟨user', hmem', e'⟩ := (mem_definers_iff h).2 ⟨user, hmem, rfl⟩
    rw [← e', hagreed.2 user' hmem']
  have hfirst : first ∈ definers t.ownSpaces name := e ▸ List.mem_cons_self ..
  refine ⟨first.2, hlen, ?_⟩
  intro user hmem
  exact eq_of_definers hsep hmem hfirst ((hall user hmem).trans (hall first hfirst).symm)

theorem disputed_rewritten_iff (h : Rewritten f t u) (hsep : Separates f t) :
    Disputed (definers u.ownSpaces name) ↔ Disputed (definers t.ownSpaces name) := by
  constructor
  · rintro ⟨a, ha, b, hb, hne⟩
    obtain ⟨a', ha', ea⟩ := (mem_definers_iff h).1 ⟨a, ha, rfl⟩
    obtain ⟨b', hb', eb⟩ := (mem_definers_iff h).1 ⟨b, hb, rfl⟩
    refine ⟨a', ha', b', hb', ?_⟩
    intro e
    exact hne (by rw [← ea, ← eb, e])
  · rintro ⟨a, ha, b, hb, hne⟩
    obtain ⟨a', ha', ea⟩ := (mem_definers_iff h).2 ⟨a, ha, rfl⟩
    obtain ⟨b', hb', eb⟩ := (mem_definers_iff h).2 ⟨b, hb, rfl⟩
    refine ⟨a', ha', b', hb', ?_⟩
    intro e
    exact hne (eq_of_definers hsep ha hb (by rw [← ea, ← eb, e]))

/-! ## Sharing -/

theorem find?_consolidate_rewritten (h : Rewritten f t u) (hsep : Separates f t)
    (space name : String) :
    u.consolidate.1.find? space name = (t.consolidate.1.find? space name).map f := by
  by_cases hagreed : ∃ path, Agreed (definers t.ownSpaces name) path
  · obtain ⟨path, hpath⟩ := hagreed
    rw [find?_consolidate_of_agreed hpath, find?_consolidate_of_agreed (agreed_rewritten h hpath)]
    by_cases hs : space = sharedSpace <;> simp [hs]
  · have hkept : ∀ path, ¬ Agreed (definers u.ownSpaces name) path :=
      fun path h' => hagreed (agreed_of_rewritten h hsep h')
    rw [find?_consolidate_of_kept hkept, find?_consolidate_of_kept fun path h' => hagreed ⟨path, h'⟩,
      h.names]

theorem conflict?_consolidate_of_disputed (h : Disputed (definers t.ownSpaces name))
    (tcode : String) :
    t.consolidate.1.conflict? name tcode =
      if tcode = sharedSpace then none else t.find? tcode name := by
  obtain ⟨users, hget, husers⟩ := conflicts_consolidate_of_disputed h
  rw [conflict?, hget, Option.bind_some, OrderedMap.get?, husers, get?_definers]

theorem find?_of_conflict?_consolidate (hnone : t.conflicts.get? name = none)
    (h : t.consolidate.1.conflict? name tcode = some path) : t.find? tcode name = some path := by
  by_cases hdisputed : Disputed (definers t.ownSpaces name)
  · rw [conflict?_consolidate_of_disputed hdisputed] at h
    split at h
    · cases h
    · exact h
  · rw [conflict?, conflicts_consolidate_of_kept hdisputed, hnone] at h
    cases h

/-- **Sharing does not see the order or the writing of paths.** -/
theorem Rewritten.consolidate (h : Rewritten f t u) (hsep : Separates f t) :
    Rewritten f t.consolidate.1 u.consolidate.1 := by
  refine ⟨find?_consolidate_rewritten h hsep, ?_, ?_⟩
  · intro name
    by_cases hdisputed : Disputed (definers t.ownSpaces name)
    · obtain ⟨users, hget, _⟩ := conflicts_consolidate_of_disputed hdisputed
      obtain ⟨users', hget', _⟩ :=
        conflicts_consolidate_of_disputed ((disputed_rewritten_iff h hsep).2 hdisputed)
      rw [hget, hget', Option.isSome_some, Option.isSome_some]
    · rw [conflicts_consolidate_of_kept hdisputed,
        conflicts_consolidate_of_kept (mt (disputed_rewritten_iff h hsep).1 hdisputed),
        h.disputed]
  · intro name tcode
    by_cases hdisputed : Disputed (definers t.ownSpaces name)
    · rw [conflict?_consolidate_of_disputed hdisputed,
        conflict?_consolidate_of_disputed ((disputed_rewritten_iff h hsep).2 hdisputed), h.names]
      by_cases hs : tcode = sharedSpace <;> simp [hs]
    · have hsame := h.users name tcode
      rw [conflict?, conflict?] at hsame ⊢
      rw [conflicts_consolidate_of_kept hdisputed,
        conflicts_consolidate_of_kept (mt (disputed_rewritten_iff h hsep).1 hdisputed), hsame]

namespace Rewritten

theorem mem_space_iff (h : Rewritten f t u) {space : String} :
    name ∈ (u.space space).keys ↔ (t.find? space name).isSome = true := by
  rw [← OrderedMap.contains_iff, OrderedMap.contains, ← find?, h.names, Option.isSome_map]

theorem mem_conflicts_iff (h : Rewritten f t u) :
    name ∈ u.conflicts.keys ↔ (t.conflicts.get? name).isSome = true := by
  rw [← OrderedMap.contains_iff, OrderedMap.contains, h.disputed]

theorem sameNames {v : AliasTable String} {g : String → String} (h : Rewritten f t u)
    (h' : Rewritten g t v) : SameNames u v := by
  refine ⟨?_, ?_, ?_⟩
  · intro space name
    rw [h.mem_space_iff, h'.mem_space_iff]
  · intro name
    rw [h.mem_conflicts_iff, h'.mem_conflicts_iff]
  · intro name tcode
    rw [h.users, h'.users, Option.isSome_map, Option.isSome_map]

end Rewritten

end AliasTable

/-! ## Tables of one batch -/

namespace Alias

open AliasTable (Rewritten Separates)

variable {transactions others : OrderedMap Transaction} {heads : OrderedMap String}

/-- Every control path of the batch starts at the root. -/
def AllRooted (transactions : OrderedMap Transaction) : Prop :=
  ∀ t ∈ transactions.values, ∀ path ∈ t.controls.keys, IsRooted path

theorem registered_of_find? {space name path : String}
    (h : (unshared ∅ transactions).find? space name = some path) :
    ∃ t ∈ transactions.values, path ∈ t.controls.keys := by
  rw [find?_unshared, Option.bind_eq_some_iff] at h
  obtain ⟨t, hget, hspace⟩ := h
  exact ⟨t, OrderedMap.mem_values_of_get? hget, Naming.mem_controls_of_space hspace⟩

theorem separates_unshared (hkeys : WordKeys heads) (hrooted : AllRooted transactions) :
    Separates (shorten heads) (unshared ∅ transactions) := by
  intro name space space' path path' hfind hfind' e
  obtain ⟨t, hmem, hpath⟩ := registered_of_find? hfind
  obtain ⟨t', hmem', hpath'⟩ := registered_of_find? hfind'
  exact shorten_inj hkeys (hrooted t hmem path hpath) (hrooted t' hmem' path' hpath') e

theorem rewritten_unshared (hkeys : WordKeys heads) (hrooted : AllRooted transactions)
    (hperm : transactions.entries.Perm others.entries) :
    Rewritten (shorten heads) (unshared ∅ transactions) (unshared heads others) := by
  refine ⟨?_, fun _ => rfl, fun _ _ => rfl⟩
  intro space name
  have hget : others.get? space = transactions.get? space :=
    (Entries.get?_perm hperm transactions.nodup space).symm
  rw [find?_unshared, find?_unshared, hget]
  cases h : transactions.get? space with
  | none => rfl
  | some t =>
    have hwritten := Naming.ofTransaction_written hkeys
      (hrooted t (OrderedMap.mem_values_of_get? h))
    rw [Option.bind_some, Option.bind_some, hwritten, Naming.written, OrderedMap.get?_mapValues]

/-- The table of any order of a batch is the table of its control paths, each
written under the heads of that order. -/
theorem rewritten_generate (hrooted : AllRooted transactions)
    (hperm : transactions.entries.Perm others.entries) :
    Rewritten (shorten (chooseHeads others.values)) (unshared ∅ transactions).consolidate.1
      (generate others).table := by
  have hkeys := wordKeys_chooseHeads others.values
  rw [table_generate]
  exact (rewritten_unshared hkeys hrooted hperm).consolidate (separates_unshared hkeys hrooted)

theorem map_expand_shorten (hkeys : WordKeys heads) {found : Option String}
    (h : ∀ path, found = some path → '\x7b' ∉ path.toList) :
    (found.map (shorten heads)).map (expand heads) = found := by
  cases found with
  | none => rfl
  | some path => rw [Option.map_some, Option.map_some, expand_shorten hkeys (h path rfl)]

theorem brace_of_find? (hbrace : ∀ t ∈ transactions.values, ∀ path ∈ t.controls.keys,
    '\x7b' ∉ path.toList) {space name path : String}
    (h : (unshared ∅ transactions).find? space name = some path) : '\x7b' ∉ path.toList := by
  obtain ⟨t, hmem, hpath⟩ := registered_of_find? h
  exact hbrace t hmem path hpath

/-- The entries of every order of a batch stand for the control paths themselves. -/
theorem expand_generate (hrooted : AllRooted transactions)
    (hbrace : ∀ t ∈ transactions.values, ∀ path ∈ t.controls.keys, '\x7b' ∉ path.toList)
    (hperm : transactions.entries.Perm others.entries) :
    (∀ space name, ((generate others).table.find? space name).map
        (expand (generate others).table.heads) =
      (unshared ∅ transactions).consolidate.1.find? space name) ∧
    ∀ name tcode, ((generate others).table.conflict? name tcode).map
        (expand (generate others).table.heads) =
      (unshared ∅ transactions).consolidate.1.conflict? name tcode := by
  have hkeys := wordKeys_chooseHeads others.values
  have hrewritten := rewritten_generate hrooted hperm
  rw [heads_generate]
  constructor
  · intro space name
    rw [hrewritten.names]
    apply map_expand_shorten hkeys
    intro path hfind
    obtain ⟨tcode, hplain⟩ := AliasTable.exists_find?_of_consolidate hfind
    exact brace_of_find? hbrace hplain
  · intro name tcode
    rw [hrewritten.users]
    apply map_expand_shorten hkeys
    intro path hfind
    exact brace_of_find? hbrace (AliasTable.find?_of_conflict?_consolidate rfl hfind)

/-- **Order independence.** The order of a batch decides neither which names are
shared, private or disputed nor, where no control path has a brace, what they stand for. -/
theorem generate_perm (hperm : transactions.entries.Perm others.entries)
    (haccepted : ∀ t ∈ transactions.values, ∃ e : Entry, e.transaction = .ok t) :
    (generate transactions).table.SameNames (generate others).table ∧
    ((∀ t ∈ transactions.values, ∀ path ∈ t.controls.keys, '\x7b' ∉ path.toList) →
      (generate transactions).table.SamePaths (generate others).table) := by
  have hrooted : AllRooted transactions := by
    intro t hmem path hpath
    obtain ⟨e, he⟩ := haccepted t hmem
    exact Entry.isRooted_of_transaction he hpath
  refine ⟨(rewritten_generate hrooted (.refl _)).sameNames (rewritten_generate hrooted hperm), ?_⟩
  intro hbrace
  obtain ⟨hnames, husers⟩ := expand_generate hrooted hbrace (.refl _)
  obtain ⟨hnames', husers'⟩ := expand_generate hrooted hbrace hperm
  refine ⟨?_, ?_⟩
  · intro space name
    rw [hnames, hnames']
  · intro name tcode
    rw [husers, husers']

theorem generate_perm_sample :
    ∃ create change : Transaction,
      let forth : OrderedMap Transaction := .ofList [("va01", create), ("va02", change)]
      let back : OrderedMap Transaction := .ofList [("va02", change), ("va01", create)]
      forth.entries.Perm back.entries ∧
        (∀ t ∈ forth.values, ∃ e : Entry, e.transaction = .ok t) ∧
        (∀ t ∈ forth.values, ∀ path ∈ t.controls.keys, '\x7b' ∉ path.toList) ∧
        (generate forth).table.SameNames (generate back).table ∧
        (generate forth).table.SamePaths (generate back).table := by
  obtain ⟨create, hcreate, _, hcreated⟩ := Sample.accepted_create
  obtain ⟨change, hchange, _, hchanged⟩ := Sample.accepted_change
  have hperm : (OrderedMap.ofList [("va01", create), ("va02", change)]).entries.Perm
      (OrderedMap.ofList [("va02", change), ("va01", create)]).entries := .swap _ _ _
  have hcases : ∀ t ∈ (OrderedMap.ofList [("va01", create), ("va02", change)]).values,
      t = create ∨ t = change := by
    intro t ht
    have hlist : t ∈ [create, change] := ht
    simpa using hlist
  have haccepted : ∀ t ∈ (OrderedMap.ofList [("va01", create), ("va02", change)]).values,
      ∃ e : Entry, e.transaction = .ok t := by
    intro t ht
    rcases hcases t ht with rfl | rfl
    · exact ⟨_, hcreate⟩
    · exact ⟨_, hchange⟩
  have hbrace : ∀ t ∈ (OrderedMap.ofList [("va01", create), ("va02", change)]).values,
      ∀ path ∈ t.controls.keys, '\x7b' ∉ path.toList := by
    intro t ht
    rcases hcases t ht with rfl | rfl
    · rw [hcreated]
      decide
    · rw [hchanged]
      decide
  obtain ⟨hnames, hpaths⟩ := generate_perm hperm haccepted
  exact ⟨create, change, hperm, haccepted, hbrace, hnames, hpaths hbrace⟩

end Alias

end ReplayFlow
