import ReplayFlow.Proofs.Alias.Naming
import ReplayFlow.Proofs.Alias.Promotion

/-!
The alias table of a batch: its heads, the spaces before names are shared, and
what a name stands for afterwards. A name that a transaction gives to a control
path leads back to that path, whoever else shares or disputes it
(`resolve_generate`).
-/

namespace ReplayFlow.Alias

variable {transactions : OrderedMap Transaction} {t : Transaction} {tcode : String}

theorem keys_chooseHeads (ts : List Transaction) : (chooseHeads ts).keys = ["usr", "popup"] := rfl

theorem wordKeys_chooseHeads (ts : List Transaction) : WordKeys (chooseHeads ts) := by
  refine wordKeys_of_all ?_
  rw [keys_chooseHeads]
  rfl

/-! ## Names and where they come from -/

theorem nameOf_ne_empty (path : String) (kind : Option String) : nameOf path kind ≠ "" := by
  have hchars : ∀ chars, nameChars chars kind ≠ [] := by
    intro chars
    unfold nameChars buttonName
    dsimp only
    split
    · split
      · decide
      · split <;> simp
    · split
      · simp
      · split
        · simp
        · split <;> simp
  intro e
  have hlist := congrArg String.toList e
  rw [nameOf, String.toList_ofList] at hlist
  exact hchars _ hlist

theorem uniqueName_ne_empty (space : OrderedMap String) {name : String} (h : name ≠ "")
    (path : String) : uniqueName space name path ≠ "" := by
  rcases List.mem_cons.1 (uniqueName_mem_candidates space name path) with e | hmem
  · rw [e]
    exact h
  · obtain ⟨i, _, e⟩ := List.mem_map.1 hmem
    rw [← e]
    intro hnil
    exact h (String.append_eq_empty_iff.1 hnil).1

namespace Naming

variable {heads : OrderedMap String} {path name : String}

/-- Every name was chosen for its path. -/
def Chosen (naming : Naming) : Prop :=
  ∀ path name, naming.names.get? path = some name →
    ∃ space kind written, name = uniqueName space (nameOf path kind) written

theorem chosen_foldl (controls : Entries ControlInfo) (naming : Naming) (h : Chosen naming) :
    Chosen (controls.foldl (add heads) naming) := by
  induction controls generalizing naming with
  | nil => exact h
  | cons control rest ih =>
    refine ih _ ?_
    intro path name hname
    simp only [add, OrderedMap.get?_insert] at hname
    split at hname
    · rename_i e
      subst e
      exact ⟨_, _, _, (Option.some.inj hname).symm⟩
    · exact h path name hname

theorem chosen_ofTransaction (heads : OrderedMap String) (t : Transaction) :
    Chosen (ofTransaction heads t) :=
  chosen_foldl t.controls.entries {} fun _ _ hname => by cases hname

theorem name_ne_empty (h : (ofTransaction heads t).names.get? path = some name) : name ≠ "" := by
  obtain ⟨space, kind, written, rfl⟩ := chosen_ofTransaction heads t path name h
  exact uniqueName_ne_empty space (nameOf_ne_empty path kind) written

theorem brace_of_mem_name (h : (ofTransaction heads t).names.get? path = some name)
    (hbrace : '\x7b' ∈ name.toList) : '\x7b' ∈ path.toList := by
  obtain ⟨space, kind, written, rfl⟩ := chosen_ofTransaction heads t path name h
  exact brace_of_mem_uniqueName hbrace

end Naming

/-! ## The table -/

/-- The table of a batch before its names are shared, with paths written under some heads. -/
def unshared (heads : OrderedMap String) (transactions : OrderedMap Transaction) :
    AliasTable String :=
  ⟨heads, transactions.entries.foldl
    (fun acc t => acc.insert t.1 (Naming.ofTransaction heads t.2).space) AliasTable.empty.spaces, ∅⟩

theorem table_generate (transactions : OrderedMap Transaction) :
    (generate transactions).table =
      (unshared (chooseHeads transactions.values) transactions).consolidate.1 := rfl

theorem heads_generate (transactions : OrderedMap Transaction) :
    (generate transactions).table.heads = chooseHeads transactions.values := by
  rw [table_generate, AliasTable.heads_consolidate]
  rfl

theorem get?_foldl_insert {α β : Type} (f : α → β) (items : Entries α) (m : OrderedMap β)
    (hn : (Entries.keys items).Nodup) (key : String) :
    (items.foldl (fun acc item => acc.insert item.1 (f item.2)) m).get? key =
      ((Entries.get? items key).map f).or (m.get? key) := by
  induction items generalizing m with
  | nil => rfl
  | cons item rest ih =>
    obtain ⟨hfresh, hrest⟩ := List.nodup_cons.1 hn
    rw [List.foldl_cons, ih _ hrest, OrderedMap.get?_insert]
    by_cases h : item.1 = key
    · have hnone : Entries.get? rest key = none := Entries.get?_eq_none_iff.2 (h ▸ hfresh)
      simp [Entries.get?, h, hnone]
    · simp [Entries.get?, h]

theorem get?_spaces_unshared (heads : OrderedMap String) (transactions : OrderedMap Transaction)
    (tcode : String) :
    (unshared heads transactions).spaces.get? tcode =
      ((transactions.get? tcode).map fun t => (Naming.ofTransaction heads t).space).or
        (AliasTable.empty.spaces.get? tcode) :=
  get?_foldl_insert (fun t => (Naming.ofTransaction heads t).space) transactions.entries
    AliasTable.empty.spaces transactions.nodup tcode

/-- Before the sharing, the space of a transaction is what its naming gives. -/
theorem find?_unshared (heads : OrderedMap String) (transactions : OrderedMap Transaction)
    (space name : String) :
    (unshared heads transactions).find? space name =
      (transactions.get? space).bind fun t => (Naming.ofTransaction heads t).space.get? name := by
  rw [AliasTable.find?, AliasTable.space, get?_spaces_unshared]
  cases transactions.get? space with
  | some t => rfl
  | none =>
    have hempty : (AliasTable.empty.spaces.get? space).getD (∅ : OrderedMap String) = ∅ := by
      by_cases h : sharedSpace = space <;>
        simp [AliasTable.empty, OrderedMap.singleton, OrderedMap.get?, Entries.get?, h]
    rw [Option.map_none, Option.none_or, hempty, OrderedMap.get?_empty, Option.bind_none]

/-- A name that a transaction gives to a path leads back to that path. -/
theorem resolve_generate (h : transactions.get? tcode = some t) (hempty : tcode ≠ "")
    (hshared : tcode ≠ sharedSpace) {path name : String} (hbrace : '\x7b' ∉ path.toList)
    (hname : (Naming.ofTransaction (chooseHeads transactions.values) t).names.get? path =
      some name) :
    (generate transactions).table.resolve name (some tcode) = some path := by
  have hfind : (unshared (chooseHeads transactions.values) transactions).find? tcode name =
      some (shorten (chooseHeads transactions.values) path) := by
    rw [find?_unshared, h]
    exact Naming.space_of_names hname
  rw [AliasTable.resolve, AliasTable.spacesFor, if_neg hempty, heads_generate, table_generate,
    AliasTable.findSome?_consolidate hshared hfind, Option.map_some,
    expand_shorten (wordKeys_chooseHeads _) hbrace]

end ReplayFlow.Alias
