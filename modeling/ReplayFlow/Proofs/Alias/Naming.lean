import ReplayFlow.Alias.Generation
import ReplayFlow.Proofs.Alias.Shortening
import ReplayFlow.Proofs.Text.Basic

/-!
Names within one transaction.

* `isFree_uniqueName`: the name a path gets is not taken by another path, since
  a space of `n` names cannot take `n + 1` candidates;
* `Naming.space_of_names`: the space gives, for the name of each path, that
  path as it is written;
* `Naming.ofTransaction_written`: the heads decide only how paths are written,
  not which names they get.
-/

namespace ReplayFlow.Alias

/-! ## Free names -/

theorem length_candidates (name : String) (count : Nat) :
    (candidates name count).length = count + 1 := by
  simp [candidates]

theorem nodup_candidates (name : String) (count : Nat) : (candidates name count).Nodup := by
  have hnumbered : ∀ i, name ≠ name ++ toString (i + 2) := by
    intro i e
    have hlen := congrArg (fun s => s.toList.length) e
    have hpos : 0 < (toString (i + 2)).toList.length := by
      rw [Nat.toString_eq_ofList_toDigits, String.toList_ofList]
      exact List.length_pos_iff.2 Nat.toDigits_ne_nil
    simp only [String.toList_append, List.length_append] at hlen
    omega
  refine List.nodup_cons.2 ⟨?_, ?_⟩
  · intro h
    obtain ⟨i, _, e⟩ := List.mem_map.1 h
    exact hnumbered i e.symm
  · refine List.Pairwise.map _ ?_ (List.nodup_range (n := count))
    intro i j hne e
    rw [String.append_right_inj, Text.toString_inj] at e
    omega

theorem isFree_iff {space : OrderedMap String} {path candidate : String} :
    isFree space path candidate = true ↔
      ∀ taken, space.get? candidate = some taken → taken = path := by
  unfold isFree
  cases h : space.get? candidate <;> simp

theorem mem_keys_of_not_isFree {space : OrderedMap String} {path candidate : String}
    (h : ¬ isFree space path candidate = true) : candidate ∈ space.keys := by
  apply Classical.byContradiction
  intro hmem
  apply h
  rw [isFree_iff, OrderedMap.get?_eq_none_iff.2 hmem]
  intro taken e
  cases e

/-- The search among the candidates never comes up empty. -/
theorem find?_candidates (space : OrderedMap String) (name path : String) :
    (candidates name space.size).find? (isFree space path) =
      some (uniqueName space name path) := by
  cases h : (candidates name space.size).find? (isFree space path) with
  | some candidate => simp [uniqueName, h]
  | none =>
    have hsub : candidates name space.size ⊆ space.keys := by
      intro candidate hmem
      exact mem_keys_of_not_isFree (List.find?_eq_none.1 h candidate hmem)
    have hle := (nodup_candidates name space.size).length_le_of_subset hsub
    rw [length_candidates, OrderedMap.length_keys] at hle
    omega

theorem isFree_uniqueName (space : OrderedMap String) (name path : String) :
    isFree space path (uniqueName space name path) = true :=
  List.find?_some (find?_candidates space name path)

theorem uniqueName_mem_candidates (space : OrderedMap String) (name path : String) :
    uniqueName space name path ∈ candidates name space.size :=
  List.mem_of_find?_eq_some (find?_candidates space name path)

/-- Only the equality of paths counts for the choice of a name. -/
theorem uniqueName_mapValues (f : String → String) (space : OrderedMap String)
    (name path : String) (hf : ∀ taken ∈ space.values, f taken = f path ↔ taken = path) :
    uniqueName (space.mapValues f) name (f path) = uniqueName space name path := by
  have hfree : isFree (space.mapValues f) (f path) = isFree space path := by
    funext candidate
    simp only [isFree, OrderedMap.get?_mapValues]
    cases h : space.get? candidate with
    | none => rfl
    | some taken => simp [hf taken (OrderedMap.mem_values_of_get? h)]
  have hsize : (space.mapValues f).size = space.size := by
    simp [OrderedMap.size, OrderedMap.mapValues, Entries.mapValues]
  rw [uniqueName, uniqueName, hfree, hsize]

/-! ## Names without braces -/

theorem brace_of_mem_fieldName {field : List Char} (h : '\x7b' ∈ fieldName field) :
    '\x7b' ∈ field := by
  have hbare : ∀ c ∈ field.filter (fun c => c ≠ '[' ∧ c ≠ ']'), c ∈ field :=
    fun c hc => (List.mem_filter.1 hc).1
  unfold fieldName at h
  dsimp only at h
  split at h
  · rcases List.mem_append.1 h with h | h
    · exact hbare _ (Text.mem_of_mem_removeAll (Text.brace_of_mem_lower h))
    · exact absurd h (by decide)
  · split at h
    · rcases List.mem_append.1 h with h | h
      · exact hbare _ (Text.mem_of_mem_removeAll (Text.brace_of_mem_lower h))
      · exact absurd h (by decide)
    · exact hbare _ (Text.brace_of_mem_lower h)

theorem mem_of_mem_afterFieldMarker {segment : List Char} {c : Char}
    (h : c ∈ (afterFieldMarker? segment).getD segment) : c ∈ segment := by
  cases hrest : afterFieldMarker? segment with
  | none => simpa [hrest] using h
  | some rest =>
    rw [hrest, Option.getD_some] at h
    simp only [afterFieldMarker?, Option.orElse_eq_orElse, Option.orElse_eq_or,
      Option.or_eq_some_iff] at hrest
    rcases hrest with hrest | ⟨_, hrest | ⟨_, hrest⟩⟩ <;> exact Text.mem_of_afterAnyCase? hrest h

theorem mem_of_mem_afterCheckMarker {segment : List Char} {c : Char}
    (h : c ∈ (afterCheckMarker? segment).getD segment) : c ∈ segment := by
  cases hrest : afterCheckMarker? segment with
  | none => simpa [hrest] using h
  | some rest =>
    rw [hrest, Option.getD_some] at h
    exact Text.mem_of_afterAnyCase? hrest h

theorem brace_of_mem_labelled {label chars : List Char} (hlabel : '\x7b' ∉ label)
    (h : '\x7b' ∈ label ++ chars) : '\x7b' ∈ chars :=
  (List.mem_append.1 h).resolve_left hlabel

theorem brace_of_mem_buttonName {segment : List Char} (h : '\x7b' ∈ buttonName segment) :
    '\x7b' ∈ segment := by
  unfold buttonName at h
  split at h
  · exact absurd h (by decide)
  · split at h
    · exact absurd h (by decide)
    · exact (List.mem_filter.1 (brace_of_mem_labelled (by decide) h)).1

theorem brace_of_mem_nameChars {path : List Char} {kind : Option String}
    (h : '\x7b' ∈ nameChars path kind) : '\x7b' ∈ path := by
  apply Text.mem_of_mem_lastSegment
  unfold nameChars at h
  dsimp only at h
  split at h
  · exact brace_of_mem_buttonName h
  · split at h
    · exact mem_of_mem_afterFieldMarker
        (brace_of_mem_fieldName (brace_of_mem_labelled (by decide) h))
    · split at h
      · exact mem_of_mem_afterCheckMarker
          (brace_of_mem_fieldName (brace_of_mem_labelled (by decide) h))
      · split at h
        · exact absurd h (by decide)
        · exact (List.mem_filter.1 (brace_of_mem_labelled (by decide) h)).1

/-- A name has a brace only where its path has one, numbered or not. -/
theorem brace_of_mem_uniqueName {space : OrderedMap String} {path written : String}
    {kind : Option String} (h : '\x7b' ∈ (uniqueName space (nameOf path kind) written).toList) :
    '\x7b' ∈ path.toList := by
  have hname : '\x7b' ∈ (nameOf path kind).toList → '\x7b' ∈ path.toList := by
    intro hmem
    rw [nameOf, String.toList_ofList] at hmem
    exact brace_of_mem_nameChars hmem
  rcases List.mem_cons.1 (uniqueName_mem_candidates space (nameOf path kind) written) with e | hmem
  · exact hname (e ▸ h)
  · obtain ⟨i, _, e⟩ := List.mem_map.1 hmem
    rw [← e, String.toList_append] at h
    rcases List.mem_append.1 h with h | h
    · exact hname h
    · exact absurd (Text.isDigit_of_mem_toString h) (by decide)

/-! ## The names of a transaction -/

namespace Naming

/-- The space gives the path of each name, as it is written. -/
def Gives (heads : OrderedMap String) (naming : Naming) : Prop :=
  ∀ path name, naming.names.get? path = some name →
    naming.space.get? name = some (shorten heads path)

/-- The same names for paths written under some heads. -/
def written (heads : OrderedMap String) (naming : Naming) : Naming :=
  ⟨naming.space.mapValues (shorten heads), naming.names⟩

theorem gives_add {heads : OrderedMap String} {naming : Naming} (h : Gives heads naming)
    (control : String × ControlInfo) : Gives heads (add heads naming control) := by
  intro path name hname
  simp only [add, OrderedMap.get?_insert] at hname ⊢
  have hfree := isFree_iff.1 (isFree_uniqueName naming.space (nameOf control.1 control.2.kind)
    (shorten heads control.1))
  by_cases hpath : control.1 = path
  · rw [if_pos hpath, Option.some.injEq] at hname
    rw [if_pos hname, hpath]
  · rw [if_neg hpath] at hname
    have hold := h path name hname
    split
    · rename_i e
      rw [← e] at hold
      rw [hfree _ hold]
    · exact hold

theorem gives_foldl {heads : OrderedMap String} (controls : Entries ControlInfo)
    (naming : Naming) (h : Gives heads naming) :
    Gives heads (controls.foldl (add heads) naming) := by
  induction controls generalizing naming with
  | nil => exact h
  | cons control rest ih => exact ih _ (gives_add h control)

theorem space_of_names {heads : OrderedMap String} {t : Transaction} {path name : String}
    (h : (ofTransaction heads t).names.get? path = some name) :
    (ofTransaction heads t).space.get? name = some (shorten heads path) :=
  gives_foldl t.controls.entries {} (fun _ _ hname => by cases hname) path name h

theorem not_mem_names {naming : Naming} {control : String × ControlInfo}
    {rest : Entries ControlInfo}
    (h : (naming.names.keys ++ Entries.keys (control :: rest)).Nodup) :
    control.1 ∉ naming.names.keys := fun hmem =>
  (List.nodup_append.1 h).2.2 _ hmem control.1 (by simp [Entries.keys]) rfl

/-- A new control moves from those that wait to those that have a name. -/
theorem keys_names_add (heads : OrderedMap String) {naming : Naming}
    {control : String × ControlInfo} (h : control.1 ∉ naming.names.keys)
    (rest : Entries ControlInfo) :
    (add heads naming control).names.keys ++ Entries.keys rest =
      naming.names.keys ++ Entries.keys (control :: rest) := by
  simp only [add]
  rw [OrderedMap.keys_insert, if_neg h, List.append_assoc]
  rfl

theorem keys_names_foldl (heads : OrderedMap String) (controls : Entries ControlInfo)
    (naming : Naming) (h : (naming.names.keys ++ Entries.keys controls).Nodup) :
    (controls.foldl (add heads) naming).names.keys =
      naming.names.keys ++ Entries.keys controls := by
  induction controls generalizing naming with
  | nil => simp [Entries.keys]
  | cons control rest ih =>
    have hkeys := keys_names_add heads (not_mem_names h) rest
    rw [List.foldl_cons, ih _ (hkeys ▸ h), hkeys]

/-- Every registered control has a name, and nothing else has one. -/
theorem keys_names (heads : OrderedMap String) (t : Transaction) :
    (ofTransaction heads t).names.keys = t.controls.keys :=
  keys_names_foldl heads t.controls.entries {} t.controls.nodup

theorem mem_values_insert {space : OrderedMap String} {name path taken : String}
    (h : taken ∈ (space.insert name path).values) : taken = path ∨ taken ∈ space.values := by
  obtain ⟨⟨key, value⟩, hmem, rfl⟩ := List.mem_map.1 h
  have hget := OrderedMap.get?_eq_some_iff.2 hmem
  rw [OrderedMap.get?_insert] at hget
  split at hget
  · exact .inl (Option.some.inj hget).symm
  · exact .inr (OrderedMap.mem_values_of_get? hget)

theorem add_written {heads : OrderedMap String} (hkeys : WordKeys heads) {naming : Naming}
    (hspace : ∀ path ∈ naming.space.values, IsRooted path) {control : String × ControlInfo}
    (hcontrol : IsRooted control.1) :
    add heads (naming.written heads) control = (add ∅ naming control).written heads := by
  have hname := uniqueName_mapValues (shorten heads) naming.space
    (nameOf control.1 control.2.kind) control.1
    fun taken htaken => shorten_inj_iff hkeys (hspace taken htaken) hcontrol
  simp only [add, written, shorten_empty, hname, OrderedMap.mapValues_insert]

/-- Without heads the space takes in the control path itself. -/
theorem forall_space_add {P : String → Prop} {naming : Naming}
    (hspace : ∀ path ∈ naming.space.values, P path) {control : String × ControlInfo}
    (hcontrol : P control.1) : ∀ path ∈ (add ∅ naming control).space.values, P path := by
  intro path hpath
  rcases mem_values_insert hpath with rfl | hold
  · exact hcontrol
  · exact hspace path hold

theorem foldl_written {heads : OrderedMap String} (hkeys : WordKeys heads)
    (controls : Entries ControlInfo) (hcontrols : ∀ path ∈ Entries.keys controls, IsRooted path)
    (naming : Naming) (hspace : ∀ path ∈ naming.space.values, IsRooted path) :
    controls.foldl (add heads) (naming.written heads) =
      (controls.foldl (add ∅) naming).written heads := by
  induction controls generalizing naming with
  | nil => rfl
  | cons control rest ih =>
    have hcontrol : IsRooted control.1 := hcontrols _ (by simp [Entries.keys])
    rw [List.foldl_cons, List.foldl_cons, add_written hkeys hspace hcontrol]
    exact ih (fun path hpath => hcontrols path (List.mem_cons_of_mem _ hpath)) _
      (forall_space_add hspace hcontrol)

/-- Two paths are written alike only if they are one, so the choice of names
does not see the heads. -/
theorem ofTransaction_written {heads : OrderedMap String} (hkeys : WordKeys heads)
    {t : Transaction} (h : ∀ path ∈ t.controls.keys, IsRooted path) :
    ofTransaction heads t = (ofTransaction ∅ t).written heads :=
  foldl_written hkeys t.controls.entries h {} fun path hpath => by cases hpath

theorem forall_space_foldl {P : String → Prop} (controls : Entries ControlInfo)
    (hcontrols : ∀ path ∈ Entries.keys controls, P path) (naming : Naming)
    (hspace : ∀ path ∈ naming.space.values, P path) :
    ∀ path ∈ (controls.foldl (add ∅) naming).space.values, P path := by
  induction controls generalizing naming with
  | nil => exact hspace
  | cons control rest ih =>
    exact ih (fun path hpath => hcontrols path (List.mem_cons_of_mem _ hpath)) _
      (forall_space_add hspace (hcontrols _ (by simp [Entries.keys])))

theorem mem_controls_of_space {t : Transaction} {path name : String}
    (h : (ofTransaction ∅ t).space.get? name = some path) : path ∈ t.controls.keys :=
  forall_space_foldl t.controls.entries (fun _ hpath => hpath) {}
    (fun path hpath => by cases hpath) path (OrderedMap.mem_values_of_get? h)

/-! ### Named steps -/

/-- A step is given at most a name. -/
theorem nameStep_eq (naming : Naming) (step : Step) :
    ∃ name, naming.nameStep step = { step with aliasName := name } := by
  unfold nameStep
  split
  · exact ⟨_, rfl⟩
  · exact ⟨step.aliasName, rfl⟩

theorem id_nameStep (naming : Naming) (step : Step) : (naming.nameStep step).id = step.id := by
  obtain ⟨name, e⟩ := nameStep_eq naming step
  rw [e]

theorem target_nameStep (naming : Naming) (step : Step) :
    (naming.nameStep step).target = step.target := by
  obtain ⟨name, e⟩ := nameStep_eq naming step
  rw [e]

/-- A step that had no name gets the one of its target. -/
theorem names_of_nameStep {naming : Naming} {step : Step} {name : String}
    (hnone : step.aliasName = none) (h : (naming.nameStep step).aliasName = some name) :
    ∃ path, step.target = some path ∧ naming.names.get? path = some name := by
  unfold nameStep at h
  split at h
  · rename_i found hfound
    obtain ⟨path, htarget, hpath⟩ := Option.bind_eq_some_iff.1 hfound
    split at hpath
    · cases hpath
    · exact ⟨path, htarget, hpath.trans h⟩
  · rw [hnone] at h
    cases h

end Naming

end ReplayFlow.Alias
