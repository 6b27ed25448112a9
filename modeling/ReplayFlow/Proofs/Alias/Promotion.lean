import ReplayFlow.Alias.Promotion
import ReplayFlow.Proofs.Data.OrderedMap

/-!
What the sharing of names does to a table. The transactions that define a name
(`definers`) decide alone what becomes of it:

* at least two with one path: the name is in the shared space and nowhere else
  (`find?_consolidate_of_agreed`);
* at least two with different paths: it stays where it is and is reported with
  them (`conflicts_consolidate_of_disputed`);
* otherwise nothing happens to it.

One step treats one name and leaves the others alone, so a pass over distinct
names treats each by itself.
-/

namespace ReplayFlow.AliasTable

variable {t : AliasTable String} {name other space : String} {path : String}

/-- The transactions that define a name, with the path each gives it. -/
def definers (spaces : Entries (OrderedMap String)) (name : String) : Entries String :=
  spaces.filterMap fun space => (space.2.get? name).map fun path => (space.1, path)

/-- At least two users, all of one path. -/
def Agreed (users : Entries String) (path : String) : Prop :=
  2 ≤ users.length ∧ ∀ user ∈ users, user.2 = path

/-- Two users of different paths. -/
def Disputed (users : Entries String) : Prop :=
  ∃ a ∈ users, ∃ b ∈ users, a.2 ≠ b.2

/-! ## Reading a table -/

theorem find?_put (t : AliasTable String) (space name path space' name' : String) :
    (t.put space name path).find? space' name' =
      if space = space' ∧ name = name' then some path else t.find? space' name' := by
  simp only [find?, AliasTable.space, put, OrderedMap.get?_insert]
  by_cases hs : space = space'
  · subst hs
    by_cases hn : name = name' <;> simp [OrderedMap.get?_insert, hn]
  · simp [hs]

theorem find?_remove (t : AliasTable String) (space name space' name' : String) :
    (t.remove space name).find? space' name' =
      if space = space' ∧ name = name' then none else t.find? space' name' := by
  simp only [find?, AliasTable.space, remove, OrderedMap.get?_insert]
  by_cases hs : space = space'
  · subst hs
    by_cases hn : name = name' <;> simp [OrderedMap.get?_erase, hn]
  · simp [hs]

theorem find?_openSpace (t : AliasTable String) (space space' name : String) :
    (t.openSpace space).find? space' name = t.find? space' name := by
  simp only [find?, AliasTable.space, openSpace, OrderedMap.get?_insert]
  by_cases hs : space = space' <;> simp [hs]

theorem find?_foldl_remove (tcodes : List String) (t : AliasTable String)
    (name space name' : String) :
    (tcodes.foldl (fun acc tcode => acc.remove tcode name) t).find? space name' =
      if space ∈ tcodes ∧ name = name' then none else t.find? space name' := by
  induction tcodes generalizing t with
  | nil => simp
  | cons tcode rest ih =>
    rw [List.foldl_cons, ih, find?_remove]
    by_cases hn : name = name'
    · by_cases hr : space ∈ rest
      · simp [hn, hr]
      · by_cases hs : tcode = space
        · simp [hn, hs]
        · simp [hn, hr, hs, Ne.symm hs]
    · simp [hn]

theorem conflicts_foldl_remove (tcodes : List String) (t : AliasTable String) (name : String) :
    (tcodes.foldl (fun acc tcode => acc.remove tcode name) t).conflicts = t.conflicts := by
  induction tcodes generalizing t with
  | nil => rfl
  | cons tcode rest ih => exact ih _

theorem heads_foldl_remove (tcodes : List String) (t : AliasTable String) (name : String) :
    (tcodes.foldl (fun acc tcode => acc.remove tcode name) t).heads = t.heads := by
  induction tcodes generalizing t with
  | nil => rfl
  | cons tcode rest ih => exact ih _

/-! ## One name -/

/-- Equality of written paths, as the sharing of names asks for it. -/
abbrev samePath : String → String → Bool := fun a b => decide (a = b)

theorem agree_iff {path : String} {rest : List String} :
    agree samePath (path :: rest) = true ↔ ∀ p ∈ path :: rest, p = path := by
  simp only [agree, List.all_eq_true, decide_eq_true_eq, List.mem_cons, forall_eq_or_imp,
    true_and]
  exact forall_congr' fun p => imp_congr_right fun _ => eq_comm

theorem values_eq_map (users : OrderedMap String) :
    users.values = users.entries.map Prod.snd := rfl

theorem promote_of_agreed {users : OrderedMap String} (h : Agreed users.entries path) :
    t.promote samePath name users =
      (users.keys.foldl (fun acc tcode => acc.remove tcode name) (t.put sharedSpace name path),
        []) := by
  obtain ⟨hlen, hall⟩ := h
  have hvalues : ∀ p ∈ users.values, p = path := by
    intro p hp
    obtain ⟨user, hmem, rfl⟩ := List.mem_map.1 hp
    exact hall user hmem
  have hcount : 2 ≤ users.values.length := by simpa [values_eq_map] using hlen
  unfold promote
  split
  · rename_i first second rest e
    have hfirst : first = path := hvalues first (by simp [e])
    have hagree : agree samePath users.values = true := by
      rw [e, agree_iff]
      intro p hp
      rw [hfirst]
      exact hvalues p (e ▸ hp)
    rw [if_pos hagree, hfirst]
  · rename_i hshort
    match hv : users.values, hcount with
    | first :: second :: rest, _ => exact absurd hv (hshort first second rest)

theorem promote_of_disputed {users : OrderedMap String} (h : Disputed users.entries) :
    (t.promote samePath name users).1 =
      { t with conflicts := t.conflicts.insert name users } := by
  obtain ⟨a, ha, b, hb, hne⟩ := h
  have ha' : a.2 ∈ users.values := List.mem_map.2 ⟨a, ha, rfl⟩
  have hb' : b.2 ∈ users.values := List.mem_map.2 ⟨b, hb, rfl⟩
  unfold promote
  split
  · rename_i first second rest e
    have hagree : ¬ agree samePath users.values = true := by
      rw [e, agree_iff, ← e]
      intro hall
      exact hne ((hall _ ha').trans (hall _ hb').symm)
    rw [if_neg hagree]
  · rename_i hshort
    match hv : users.values, hshort with
    | [], _ => simp [hv] at ha'
    | [only], _ =>
      rw [hv, List.mem_singleton] at ha' hb'
      exact absurd (ha'.trans hb'.symm) hne
    | first :: second :: rest, hshort => exact absurd rfl (hshort first second rest)

theorem promote_of_unused {users : OrderedMap String} (hagreed : ∀ path, ¬ Agreed users.entries path)
    (hdisputed : ¬ Disputed users.entries) : t.promote samePath name users = (t, []) := by
  unfold promote
  split
  · rename_i first second rest e
    exfalso
    apply hagreed first
    refine ⟨?_, ?_⟩
    · have hlen := congrArg List.length e
      simp [values_eq_map] at hlen
      omega
    · intro user huser
      apply Classical.byContradiction
      intro hne
      have hfirst : first ∈ users.values := by simp [e]
      obtain ⟨other, hother, rfl⟩ := List.mem_map.1 hfirst
      exact hdisputed ⟨user, huser, other, hother, hne⟩
  · rfl

theorem agreed_unique {users : Entries String} {other : String} (h : Agreed users path)
    (h' : Agreed users other) : path = other := by
  obtain ⟨user, rest, e⟩ :=
    List.exists_cons_of_length_pos (Nat.lt_of_lt_of_le Nat.zero_lt_two h.1)
  have huser : user ∈ users := e ▸ List.mem_cons_self ..
  exact (h.2 user huser).symm.trans (h'.2 user huser)

theorem two_le_of_disputed {users : Entries String} (h : Disputed users) : 2 ≤ users.length := by
  obtain ⟨a, ha, b, hb, hne⟩ := h
  match users, ha, hb with
  | [], ha, _ => simp at ha
  | [only], ha, hb =>
    rw [List.mem_singleton] at ha hb
    exact absurd (by rw [ha, hb]) hne
  | _ :: _ :: _, _, _ => simp

/-- What one step can do: share the name, report it, or nothing. -/
theorem promote_cases (t : AliasTable String) (name : String) (users : OrderedMap String) :
    (∃ path, Agreed users.entries path ∧ (t.promote samePath name users).1 =
      users.keys.foldl (fun acc tcode => acc.remove tcode name)
        (t.put sharedSpace name path)) ∨
    (Disputed users.entries ∧ (t.promote samePath name users).1 =
      { t with conflicts := t.conflicts.insert name users }) ∨
    ((∀ path, ¬ Agreed users.entries path) ∧ ¬ Disputed users.entries ∧
      (t.promote samePath name users).1 = t) := by
  by_cases hagreed : ∃ path, Agreed users.entries path
  · obtain ⟨path, h⟩ := hagreed
    exact .inl ⟨path, h, by rw [promote_of_agreed h]⟩
  · have hnone : ∀ path, ¬ Agreed users.entries path := fun path h => hagreed ⟨path, h⟩
    by_cases hdisputed : Disputed users.entries
    · exact .inr (.inl ⟨hdisputed, promote_of_disputed hdisputed⟩)
    · exact .inr (.inr ⟨hnone, hdisputed, by rw [promote_of_unused hnone hdisputed]⟩)

theorem find?_promote_of_ne (h : name ≠ other) (users : OrderedMap String) :
    (t.promote samePath name users).1.find? space other = t.find? space other := by
  rcases promote_cases t name users with ⟨path, _, e⟩ | ⟨_, e⟩ | ⟨_, _, e⟩
  · rw [e, find?_foldl_remove, find?_put]
    simp [h]
  · rw [e]
    rfl
  · rw [e]

theorem conflicts_promote_of_ne (h : name ≠ other) (users : OrderedMap String) :
    (t.promote samePath name users).1.conflicts.get? other = t.conflicts.get? other := by
  rcases promote_cases t name users with ⟨path, _, e⟩ | ⟨_, e⟩ | ⟨_, _, e⟩
  · rw [e, conflicts_foldl_remove]
    rfl
  · rw [e]
    simp [OrderedMap.get?_insert, h]
  · rw [e]

theorem heads_promote (users : OrderedMap String) :
    (t.promote samePath name users).1.heads = t.heads := by
  rcases promote_cases t name users with ⟨path, _, e⟩ | ⟨_, e⟩ | ⟨_, _, e⟩
  · rw [e, heads_foldl_remove]
    rfl
  · rw [e]
  · rw [e]

/-! ## A pass over distinct names -/

section Pass

variable {named : Entries (OrderedMap String)} {users : OrderedMap String}

theorem promoteAll_cons (t : AliasTable String) (entry : String × OrderedMap String)
    (named : Entries (OrderedMap String)) :
    (t.promoteAll samePath (entry :: named)).1 =
      ((t.promote samePath entry.1 entry.2).1.promoteAll samePath named).1 := rfl

theorem find?_promoteAll_of_kept (t : AliasTable String)
    (h : ∀ users, (name, users) ∈ named → ∀ path, ¬ Agreed users.entries path) (space : String) :
    (t.promoteAll samePath named).1.find? space name = t.find? space name := by
  induction named generalizing t with
  | nil => rfl
  | cons entry rest ih =>
    rw [promoteAll_cons, ih _ fun users hmem => h users (List.mem_cons_of_mem _ hmem)]
    by_cases hname : entry.1 = name
    · subst hname
      have hentry := h entry.2 (List.mem_cons_self ..)
      rcases promote_cases t entry.1 entry.2 with ⟨path, hagreed, _⟩ | ⟨_, e⟩ | ⟨_, _, e⟩
      · exact absurd hagreed (hentry path)
      · rw [e]
        rfl
      · rw [e]
    · exact find?_promote_of_ne hname _

theorem find?_promoteAll_of_agreed (t : AliasTable String) (hn : (Entries.keys named).Nodup)
    (hmem : (name, users) ∈ named) (hagreed : Agreed users.entries path)
    (hshared : sharedSpace ∉ users.keys) (space : String) :
    (t.promoteAll samePath named).1.find? space name =
      if space = sharedSpace then some path
      else if space ∈ users.keys then none else t.find? space name := by
  induction named generalizing t with
  | nil => simp at hmem
  | cons entry rest ih =>
    obtain ⟨hfresh, hrest⟩ := List.nodup_cons.1 hn
    rw [promoteAll_cons]
    rcases List.mem_cons.1 hmem with rfl | htail
    · rw [find?_promoteAll_of_kept _ fun users' h' => absurd (Entries.mem_keys_of_mem h') hfresh,
        promote_of_agreed hagreed, find?_foldl_remove, find?_put]
      by_cases hs : space = sharedSpace
      · simp [hs, hshared]
      · simp [hs, Ne.symm hs]
    · have hne : entry.1 ≠ name := by
        intro e
        exact hfresh (e ▸ Entries.mem_keys_of_mem htail)
      rw [ih _ hrest htail, find?_promote_of_ne hne]

theorem conflicts_promoteAll_of_kept (t : AliasTable String)
    (h : ∀ users, (name, users) ∈ named → ¬ Disputed users.entries) :
    (t.promoteAll samePath named).1.conflicts.get? name = t.conflicts.get? name := by
  induction named generalizing t with
  | nil => rfl
  | cons entry rest ih =>
    rw [promoteAll_cons, ih _ fun users hmem => h users (List.mem_cons_of_mem _ hmem)]
    by_cases hname : entry.1 = name
    · subst hname
      have hentry := h entry.2 (List.mem_cons_self ..)
      rcases promote_cases t entry.1 entry.2 with ⟨path, _, e⟩ | ⟨hdisputed, _⟩ | ⟨_, _, e⟩
      · rw [e, conflicts_foldl_remove]
        rfl
      · exact absurd hdisputed hentry
      · rw [e]
    · exact conflicts_promote_of_ne hname _

theorem conflicts_promoteAll_of_disputed (t : AliasTable String)
    (hn : (Entries.keys named).Nodup) (hmem : (name, users) ∈ named)
    (hdisputed : Disputed users.entries) :
    (t.promoteAll samePath named).1.conflicts.get? name = some users := by
  induction named generalizing t with
  | nil => simp at hmem
  | cons entry rest ih =>
    obtain ⟨hfresh, hrest⟩ := List.nodup_cons.1 hn
    rw [promoteAll_cons]
    rcases List.mem_cons.1 hmem with rfl | htail
    · rw [conflicts_promoteAll_of_kept _
        fun users' h' => absurd (Entries.mem_keys_of_mem h') hfresh,
        promote_of_disputed hdisputed]
      simp [OrderedMap.get?_insert]
    · exact ih _ hrest htail

theorem heads_promoteAll (t : AliasTable String) (named : Entries (OrderedMap String)) :
    (t.promoteAll samePath named).1.heads = t.heads := by
  induction named generalizing t with
  | nil => rfl
  | cons entry rest ih => rw [promoteAll_cons, ih, heads_promote]

end Pass

/-! ## The users of a name -/

/-- The users that a collection notes for a name; none before the first is noted. -/
def noted (uses : OrderedMap (OrderedMap String)) (name : String) : OrderedMap String :=
  (uses.get? name).getD ∅

theorem noted_noteUse (uses : OrderedMap (OrderedMap String)) (tcode : String)
    (entry : String × String) (name : String) :
    noted (noteUse uses tcode entry) name =
      if entry.1 = name then (noted uses name).insert tcode entry.2 else noted uses name := by
  unfold noted noteUse
  rw [OrderedMap.get?_insert]
  by_cases h : entry.1 = name <;> simp [h]

/-- The names of one transaction add it to the users of each, once. -/
theorem noted_foldl_noteUse (entries : Entries String) (hn : (Entries.keys entries).Nodup)
    (uses : OrderedMap (OrderedMap String)) (tcode name : String) :
    noted (entries.foldl (fun acc e => noteUse acc tcode e) uses) name =
      match Entries.get? entries name with
      | some path => (noted uses name).insert tcode path
      | none => noted uses name := by
  induction entries generalizing uses with
  | nil => rfl
  | cons entry rest ih =>
    obtain ⟨hfresh, hrest⟩ := List.nodup_cons.1 hn
    rw [List.foldl_cons, ih hrest, noted_noteUse]
    by_cases h : entry.1 = name
    · have hnone : Entries.get? rest name = none := Entries.get?_eq_none_iff.2 (h ▸ hfresh)
      simp [Entries.get?, h, hnone]
    · simp [Entries.get?, h]

theorem entries_noted_foldl (spaces : Entries (OrderedMap String))
    (hn : (Entries.keys spaces).Nodup) (uses : OrderedMap (OrderedMap String))
    (hfresh : ∀ name, ∀ tcode ∈ Entries.keys spaces, tcode ∉ (noted uses name).keys)
    (name : String) :
    (noted (spaces.foldl
      (fun acc space => space.2.entries.foldl (fun acc e => noteUse acc space.1 e) acc) uses)
      name).entries = (noted uses name).entries ++ definers spaces name := by
  induction spaces generalizing uses with
  | nil => simp [definers]
  | cons space rest ih =>
    obtain ⟨hspace, hrest⟩ := List.nodup_cons.1 hn
    have hstep := fun name => noted_foldl_noteUse space.2.entries space.2.nodup uses space.1 name
    have hnew : ∀ name, space.1 ∉ (noted uses name).keys :=
      fun name => hfresh name _ (List.mem_cons_self ..)
    rw [List.foldl_cons, ih hrest]
    · rw [hstep, definers, definers, List.filterMap_cons, OrderedMap.get?]
      cases Entries.get? space.2.entries name with
      | none => rfl
      | some path =>
        simp [OrderedMap.entries_insert_of_not_mem (hnew name)]
    · intro name tcode htcode
      have hold := hfresh name tcode (List.mem_cons_of_mem _ htcode)
      rw [hstep]
      cases Entries.get? space.2.entries name with
      | none => exact hold
      | some path =>
        intro hmem
        rw [OrderedMap.keys_insert, if_neg (hnew name), List.mem_append,
          List.mem_singleton] at hmem
        rcases hmem with hmem | rfl
        · exact hold hmem
        · exact hspace htcode

theorem entries_noted_uses {spaces : Entries (OrderedMap String)}
    (hn : (Entries.keys spaces).Nodup) (name : String) :
    (noted (uses spaces) name).entries = definers spaces name := by
  rw [uses, entries_noted_foldl spaces hn ∅ fun _ _ _ h => by cases h]
  rfl

theorem get?_uses_of_mem {spaces : Entries (OrderedMap String)}
    (hn : (Entries.keys spaces).Nodup) {users : OrderedMap String}
    (h : (name, users) ∈ (uses spaces).entries) : users.entries = definers spaces name := by
  rw [← entries_noted_uses hn, noted, OrderedMap.get?_eq_some_iff.2 h, Option.getD_some]

theorem exists_mem_uses {spaces : Entries (OrderedMap String)}
    (hn : (Entries.keys spaces).Nodup) (h : 2 ≤ (definers spaces name).length) :
    ∃ users, (name, users) ∈ (uses spaces).entries ∧ users.entries = definers spaces name := by
  have hnoted := entries_noted_uses hn name
  cases hget : (uses spaces).get? name with
  | none =>
    rw [noted, hget] at hnoted
    rw [← hnoted] at h
    simp at h
  | some users =>
    have hmem := OrderedMap.get?_eq_some_iff.1 hget
    exact ⟨users, hmem, get?_uses_of_mem hn hmem⟩

/-! ## The whole table -/

theorem nodup_ownSpaces (t : AliasTable String) : (Entries.keys t.ownSpaces).Nodup :=
  Entries.nodup_keys_filter t.spaces.nodup _

theorem mem_definers {spaces : Entries (OrderedMap String)} {tcode : String} :
    (tcode, path) ∈ definers spaces name ↔
      ∃ space, (tcode, space) ∈ spaces ∧ space.get? name = some path := by
  simp only [definers, List.mem_filterMap, Option.map_eq_some_iff, Prod.mk.injEq]
  constructor
  · rintro ⟨⟨tcode', space⟩, hmem, path', hget, rfl, rfl⟩
    exact ⟨space, hmem, hget⟩
  · rintro ⟨space, hmem, hget⟩
    exact ⟨(tcode, space), hmem, path, hget, rfl, rfl⟩

theorem mem_definers_ownSpaces {tcode : String} :
    (tcode, path) ∈ definers t.ownSpaces name ↔
      tcode ≠ sharedSpace ∧ t.find? tcode name = some path := by
  simp only [mem_definers, ownSpaces, List.mem_filter, find?, AliasTable.space]
  constructor
  · rintro ⟨space, ⟨hmem, hne⟩, hget⟩
    exact ⟨by simpa using hne, by simpa [OrderedMap.get?_eq_some_iff.2 hmem] using hget⟩
  · rintro ⟨hne, hget⟩
    cases hspace : t.spaces.get? tcode with
    | none => simp [hspace] at hget
    | some space =>
      refine ⟨space, ⟨OrderedMap.get?_eq_some_iff.1 hspace, by simpa using hne⟩, ?_⟩
      simpa [hspace] using hget

theorem sharedSpace_not_mem_definers (t : AliasTable String) (name : String) :
    sharedSpace ∉ Entries.keys (definers t.ownSpaces name) := by
  intro h
  obtain ⟨path, hmem⟩ := Entries.mem_keys_iff.1 h
  exact (mem_definers_ownSpaces.1 hmem).1 rfl

theorem nodup_keys_definers (t : AliasTable String) (name : String) :
    (Entries.keys (definers t.ownSpaces name)).Nodup := by
  have hsub : ∀ spaces : Entries (OrderedMap String),
      List.Sublist (Entries.keys (definers spaces name)) (Entries.keys spaces) := by
    intro spaces
    induction spaces with
    | nil => exact .slnil
    | cons space rest ih =>
      rw [definers, List.filterMap_cons]
      cases space.2.get? name with
      | none => exact ih.cons _
      | some path => exact ih.cons_cons _
  exact (nodup_ownSpaces t).sublist (hsub _)

theorem get?_definers (t : AliasTable String) (name tcode : String) :
    Entries.get? (definers t.ownSpaces name) tcode =
      if tcode = sharedSpace then none else t.find? tcode name := by
  apply Option.ext
  intro path
  rw [Entries.get?_eq_some_iff (nodup_keys_definers t name), mem_definers_ownSpaces]
  by_cases h : tcode = sharedSpace <;> simp [h]

/-- A pass is made unless there are too few transactions for any name to have two. -/
theorem consolidate_eq (t : AliasTable String) :
    (t.consolidate).1 = ((t.openSpace sharedSpace).promoteAll samePath (uses t.ownSpaces).entries).1 ∨
    ((t.consolidate).1 = t ∧ ∀ name, (definers t.ownSpaces name).length < 2) := by
  unfold consolidate consolidateBy
  split
  · rename_i hfew
    refine .inr ⟨rfl, fun name => ?_⟩
    exact Nat.lt_of_le_of_lt (List.length_filterMap_le _ _) hfew
  · exact .inl rfl

theorem find?_consolidate_of_agreed (h : Agreed (definers t.ownSpaces name) path)
    (space : String) :
    t.consolidate.1.find? space name = if space = sharedSpace then some path else none := by
  rcases consolidate_eq t with e | ⟨_, hfew⟩
  · obtain ⟨users, hmem, husers⟩ := exists_mem_uses (nodup_ownSpaces t) h.1
    have hkeys : users.keys = Entries.keys (definers t.ownSpaces name) := by
      rw [OrderedMap.keys, husers]
    have hshared : sharedSpace ∉ users.keys := by
      rw [hkeys]
      exact sharedSpace_not_mem_definers t name
    rw [e, find?_promoteAll_of_agreed _ (uses t.ownSpaces).nodup hmem (husers ▸ h) hshared,
      find?_openSpace]
    by_cases hs : space = sharedSpace
    · rw [if_pos hs, if_pos hs]
    · rw [if_neg hs, if_neg hs, ite_eq_left_iff]
      intro huser
      cases hfind : t.find? space name with
      | none => rfl
      | some path' =>
        refine absurd ?_ huser
        rw [hkeys]
        exact Entries.mem_keys_of_mem (mem_definers_ownSpaces.2 ⟨hs, hfind⟩)
  · exact absurd h.1 (Nat.not_le.2 (hfew name))

theorem find?_consolidate_of_kept (h : ∀ path, ¬ Agreed (definers t.ownSpaces name) path)
    (space : String) : t.consolidate.1.find? space name = t.find? space name := by
  rcases consolidate_eq t with e | ⟨e, _⟩
  · rw [e, find?_promoteAll_of_kept, find?_openSpace]
    intro users hmem
    rw [get?_uses_of_mem (nodup_ownSpaces t) hmem]
    exact h
  · rw [e]

theorem conflicts_consolidate_of_disputed (h : Disputed (definers t.ownSpaces name)) :
    ∃ users, t.consolidate.1.conflicts.get? name = some users ∧
      users.entries = definers t.ownSpaces name := by
  rcases consolidate_eq t with e | ⟨_, hfew⟩
  · obtain ⟨users, hmem, husers⟩ := exists_mem_uses (nodup_ownSpaces t) (two_le_of_disputed h)
    refine ⟨users, ?_, husers⟩
    rw [e]
    exact conflicts_promoteAll_of_disputed _ (uses t.ownSpaces).nodup hmem (husers ▸ h)
  · exact absurd (two_le_of_disputed h) (Nat.not_le.2 (hfew name))

theorem conflicts_consolidate_of_kept (h : ¬ Disputed (definers t.ownSpaces name)) :
    t.consolidate.1.conflicts.get? name = t.conflicts.get? name := by
  rcases consolidate_eq t with e | ⟨e, _⟩
  · rw [e, conflicts_promoteAll_of_kept]
    · rfl
    · intro users hmem
      rw [get?_uses_of_mem (nodup_ownSpaces t) hmem]
      exact h
  · rw [e]

/-- Sharing makes up no paths. -/
theorem exists_find?_of_consolidate {space : String}
    (h : t.consolidate.1.find? space name = some path) :
    ∃ tcode, t.find? tcode name = some path := by
  by_cases hagreed : ∃ path, Agreed (definers t.ownSpaces name) path
  · obtain ⟨path', hpath'⟩ := hagreed
    rw [find?_consolidate_of_agreed hpath'] at h
    split at h
    · obtain ⟨user, rest, e⟩ :=
        List.exists_cons_of_length_pos (Nat.lt_of_lt_of_le Nat.zero_lt_two hpath'.1)
      have huser : user ∈ definers t.ownSpaces name := e ▸ List.mem_cons_self ..
      have hsame : user.2 = path := (hpath'.2 user huser).trans (Option.some.inj h)
      exact ⟨user.1, hsame ▸ (mem_definers_ownSpaces.1 huser).2⟩
    · cases h
  · rw [find?_consolidate_of_kept fun path' h' => hagreed ⟨path', h'⟩] at h
    exact ⟨space, h⟩

theorem heads_consolidate (t : AliasTable String) : t.consolidate.1.heads = t.heads := by
  rcases consolidate_eq t with e | ⟨e, _⟩
  · rw [e, heads_promoteAll]
    rfl
  · rw [e]

/-- What a name stands for to a transaction is what it stood for before: it is
still in the space of the transaction, or it has moved to the shared one. -/
theorem findSome?_consolidate {tcode : String} (htcode : tcode ≠ sharedSpace)
    (h : t.find? tcode name = some path) :
    ([tcode, sharedSpace].findSome? fun space => t.consolidate.1.find? space name) =
      some path := by
  by_cases hagreed : ∃ path, Agreed (definers t.ownSpaces name) path
  · obtain ⟨path', hpath'⟩ := hagreed
    have hsame : path = path' := hpath'.2 (tcode, path) (mem_definers_ownSpaces.2 ⟨htcode, h⟩)
    simp [find?_consolidate_of_agreed hpath', htcode, hsame]
  · have hkept : ∀ space, t.consolidate.1.find? space name = t.find? space name :=
      find?_consolidate_of_kept fun path' h' => hagreed ⟨path', h'⟩
    simp [hkept, h]

end ReplayFlow.AliasTable
