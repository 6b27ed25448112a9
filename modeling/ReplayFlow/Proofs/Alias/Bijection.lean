import ReplayFlow.Proofs.Alias.Generation
import ReplayFlow.Proofs.Recording.Registry

/-!
Names and registered controls, one to one. A name is looked for by trying the
name itself and then its numbers from two on (`Search`); the search ends, and
where it ends is the name that is given (`search_iff`).

Of all registered paths only one is written as it is, so a name that no other
path has taken is new (`uniqueName_not_mem_keys`). Each control thus adds one
entry to the space and changes none (`Faithful.add`), whatever names the
controls before it got (`Faithful.foldl`).
-/

namespace ReplayFlow.Alias

/-! ## The search for a name -/

/-- The search with a candidate at hand and the number that is next. -/
inductive Search (space : OrderedMap String) (name path : String) : String → Nat → String → Prop
  | found {candidate : String} {counter : Nat} : isFree space path candidate = true →
      Search space name path candidate counter candidate
  | next {candidate result : String} {counter : Nat} : isFree space path candidate = false →
      Search space name path (name ++ toString counter) (counter + 1) result →
      Search space name path candidate counter result

section

variable {space : OrderedMap String} {name path candidate result other : String} {counter : Nat}

theorem Search.unique (h : Search space name path candidate counter result)
    (hother : Search space name path candidate counter other) : result = other := by
  induction h with
  | found hfree =>
    cases hother with
    | found => rfl
    | next htaken =>
      rw [hfree] at htaken
      cases htaken
  | next htaken _ ih =>
    cases hother with
    | found hfree =>
      rw [hfree] at htaken
      cases htaken
    | next _ hmore => exact ih hmore

theorem candidates_eq (name : String) (count : Nat) :
    candidates name count = name :: (List.range' 2 count).map fun i => name ++ toString i := by
  simp [candidates, List.range'_eq_map_range, Nat.add_comm]

theorem search_of_find? {count : Nat}
    (h : (candidate :: (List.range' counter count).map fun i => name ++ toString i).find?
      (isFree space path) = some result) : Search space name path candidate counter result := by
  induction count generalizing candidate counter with
  | zero =>
    cases hfree : isFree space path candidate with
    | true =>
      rw [List.find?_cons_of_pos hfree, Option.some.injEq] at h
      exact h ▸ .found hfree
    | false => simp [hfree] at h
  | succ count ih =>
    cases hfree : isFree space path candidate with
    | true =>
      rw [List.find?_cons_of_pos hfree, Option.some.injEq] at h
      exact h ▸ .found hfree
    | false =>
      rw [List.find?_cons_of_neg (by simp [hfree]), List.range'_succ, List.map_cons] at h
      exact .next hfree (ih h)

/-- The search ends, and only at the name that is given. -/
theorem search_iff : Search space name path name 2 result ↔ result = uniqueName space name path := by
  have hfound := find?_candidates space name path
  rw [candidates_eq] at hfound
  have hsearch := search_of_find? hfound
  exact ⟨fun h => h.unique hsearch, fun e => e ▸ hsearch⟩

end

namespace Naming

variable {heads : OrderedMap String} {naming : Naming} {control : String × ControlInfo}
  {controls : Entries ControlInfo} {t : Transaction} {path name : String}

/-! ## One control -/

/-- The space has one entry for each name, in order: the name with its path as it is written. -/
def Faithful (heads : OrderedMap String) (naming : Naming) : Prop :=
  naming.space.entries = naming.names.entries.map fun entry => (entry.2, shorten heads entry.1)

theorem uniqueName_not_mem_keys (hkeys : WordKeys heads) (h : Faithful heads naming)
    (hnames : ∀ path ∈ naming.names.keys, IsRooted path) (hrooted : IsRooted path)
    (hfresh : path ∉ naming.names.keys) (name : String) :
    uniqueName naming.space name (shorten heads path) ∉ naming.space.keys := by
  intro hmem
  obtain ⟨taken, htaken⟩ := OrderedMap.exists_get?_of_mem_keys hmem
  have hsame := isFree_iff.1 (isFree_uniqueName naming.space name (shorten heads path)) taken htaken
  have hentry := OrderedMap.get?_eq_some_iff.1 htaken
  rw [h] at hentry
  obtain ⟨⟨other, _⟩, hother, e⟩ := List.mem_map.1 hentry
  have hknown : other ∈ naming.names.keys := Entries.mem_keys_of_mem hother
  have hwritten : shorten heads other = shorten heads path := (congrArg Prod.snd e).trans hsame
  exact hfresh (shorten_inj hkeys (hnames other hknown) hrooted hwritten ▸ hknown)

/-- A new control adds one entry. -/
theorem Faithful.add (hkeys : WordKeys heads) (h : Faithful heads naming)
    (hnames : ∀ path ∈ naming.names.keys, IsRooted path) (hrooted : IsRooted control.1)
    (hfresh : control.1 ∉ naming.names.keys) : Faithful heads (add heads naming control) := by
  have hname := uniqueName_not_mem_keys hkeys h hnames hrooted hfresh
    (nameOf control.1 control.2.kind)
  simp only [Faithful, Naming.add]
  rw [OrderedMap.entries_insert_of_not_mem hname, OrderedMap.entries_insert_of_not_mem hfresh,
    List.map_append, h, List.map_singleton]

/-! ## All controls -/

theorem Faithful.foldl (hkeys : WordKeys heads) (controls : Entries ControlInfo)
    (h : Faithful heads naming) (hnodup : (naming.names.keys ++ Entries.keys controls).Nodup)
    (hrooted : ∀ path ∈ naming.names.keys ++ Entries.keys controls, IsRooted path) :
    Faithful heads (controls.foldl (Naming.add heads) naming) := by
  induction controls generalizing naming with
  | nil => exact h
  | cons control rest ih =>
    have hfresh := not_mem_names hnodup
    have hsplit := keys_names_add heads hfresh rest
    have hstep := h.add hkeys (fun path hpath => hrooted path (List.mem_append_left _ hpath))
      (hrooted control.1 (by simp [Entries.keys])) hfresh
    exact ih hstep (hsplit ▸ hnodup) (hsplit ▸ hrooted)

theorem faithful_ofTransaction (hkeys : WordKeys heads)
    (h : ∀ path ∈ t.controls.keys, IsRooted path) : Faithful heads (ofTransaction heads t) :=
  Faithful.foldl hkeys t.controls.entries rfl t.controls.nodup h

theorem size_space (hkeys : WordKeys heads) (h : ∀ path ∈ t.controls.keys, IsRooted path) :
    (ofTransaction heads t).space.size = t.controls.size := by
  rw [OrderedMap.size, faithful_ofTransaction hkeys h, List.length_map, ← OrderedMap.size,
    ← OrderedMap.length_keys, keys_names, OrderedMap.length_keys]

theorem mem_controls_of_name (h : (ofTransaction heads t).names.get? path = some name) :
    path ∈ t.controls.keys :=
  keys_names heads t ▸ OrderedMap.mem_keys_of_get? h

/-- A name has one entry in the space, and only one path is written as it says. -/
theorem eq_of_name (hkeys : WordKeys heads) (h : ∀ path ∈ t.controls.keys, IsRooted path)
    {other : String} (hpath : (ofTransaction heads t).names.get? path = some name)
    (hother : (ofTransaction heads t).names.get? other = some name) : path = other := by
  have hwritten := (space_of_names hpath).symm.trans (space_of_names hother)
  exact shorten_inj hkeys (h path (mem_controls_of_name hpath))
    (h other (mem_controls_of_name hother)) (Option.some.inj hwritten)

theorem get?_names_foldl (naming : Naming) (h : path ∉ Entries.keys controls) :
    (controls.foldl (add heads) naming).names.get? path = naming.names.get? path := by
  induction controls generalizing naming with
  | nil => rfl
  | cons control rest ih =>
    rw [List.foldl_cons, ih _ (List.not_mem_of_not_mem_cons h)]
    simp only [add]
    rw [OrderedMap.get?_insert, if_neg (Ne.symm (List.ne_of_not_mem_cons h))]

/-- A control keeps the name that it gets when its turn comes. -/
theorem get?_names_of_split {before after : Entries ControlInfo}
    (h : t.controls.entries = before ++ control :: after) :
    (ofTransaction heads t).names.get? control.1 =
      some (uniqueName (before.foldl (add heads) {}).space (nameOf control.1 control.2.kind)
        (shorten heads control.1)) := by
  have hnodup := t.controls.nodup
  rw [h, Entries.keys_append] at hnodup
  have hafter : control.1 ∉ Entries.keys after :=
    (List.nodup_cons.1 (List.nodup_append.1 hnodup).2.1).1
  rw [ofTransaction, h, List.foldl_append, List.foldl_cons, get?_names_foldl _ hafter]
  simp only [add]
  rw [OrderedMap.get?_insert, if_pos rfl]

/-! ## The steps -/

theorem aliasName_nameStep {step : Step} (hnone : step.aliasName = none)
    (hempty : "" ∉ naming.names.keys) :
    (naming.nameStep step).aliasName = step.target.bind naming.names.get? := by
  have hfound : (step.target.bind fun path => if path = "" then none else naming.names.get? path) =
      step.target.bind naming.names.get? := by
    congr 1
    funext path
    split
    · rename_i e
      rw [e, OrderedMap.get?_eq_none_iff.2 hempty]
    · rfl
  unfold nameStep
  rw [hfound]
  cases step.target.bind naming.names.get? with
  | some name => rfl
  | none => exact hnone

/-- Names and the registered controls of a transaction are one to one, and its steps are named
after them. -/
structure OneToOne (heads : OrderedMap String) (t : Transaction) (naming : Naming) : Prop where
  /-- Each control has the name at which its search ended, among the names before it. -/
  searched : ∀ before control after, t.controls.entries = before ++ control :: after →
    ∃ name, naming.names.get? control.1 = some name ∧
      Search (before.foldl (add heads) {}).space (nameOf control.1 control.2.kind)
        (shorten heads control.1) (nameOf control.1 control.2.kind) 2 name
  controls : naming.names.keys = t.controls.keys
  distinct : ∀ path other name, naming.names.get? path = some name →
    naming.names.get? other = some name → path = other
  size : naming.space.size = t.controls.size
  entries : naming.space.entries =
    naming.names.entries.map fun entry => (entry.2, shorten heads entry.1)
  steps : ∀ step ∈ t.steps, ∀ name, (naming.nameStep step).aliasName = some name ↔
    ∃ path ∈ t.controls.keys, step.target = some path ∧ naming.names.get? path = some name

/-- **Naming within a transaction is a bijection.** Whatever is recorded, and whatever the heads of
the batch are, the search for a name ends for each control; the space has one entry for each, a
name of its own with its path as it is written; and a step has the name of its target just when
this is registered. -/
theorem ofTransaction_oneToOne {recording : Recording} {t : Transaction}
    (h : recording.normalize = .ok t) (ts : List Transaction) :
    OneToOne (chooseHeads ts) t (ofTransaction (chooseHeads ts) t) := by
  have hrecorded := Recording.recorded_normalize h
  have hrooted : ∀ path ∈ t.controls.keys, IsRooted path := fun _ =>
    Transaction.isRooted_of_registered hrecorded.registered
  have hkeys := wordKeys_chooseHeads ts
  refine ⟨?_, keys_names _ t, fun _ _ _ => eq_of_name hkeys hrooted, size_space hkeys hrooted,
    faithful_ofTransaction hkeys hrooted, ?_⟩
  · intro before control after hsplit
    exact ⟨_, get?_names_of_split hsplit, search_iff.2 rfl⟩
  · intro step hstep name
    have hempty : "" ∉ (ofTransaction (chooseHeads ts) t).names.keys := by
      rw [keys_names]
      exact fun hmem => (hrooted "" hmem).ne_empty rfl
    rw [aliasName_nameStep (hrecorded.aliasName_eq_none step hstep) hempty,
      Option.bind_eq_some_iff]
    constructor
    · rintro ⟨path, htarget, hget⟩
      exact ⟨path, mem_controls_of_name hget, htarget, hget⟩
    · rintro ⟨path, _, htarget, hget⟩
      exact ⟨path, htarget, hget⟩

/-- Three fields of one name among four; the second takes the name that the third has of its
own. -/
def crowded : Recording :=
  .ofDocument (.obj [("Tcode", .str "va05"), ("Steps", .arr [
    Sample.event "Input" "/app/con[0]/ses[0]/wnd[0]/usr/ctxtF1" "a",
    Sample.event "Input" "/app/con[0]/ses[0]/wnd[0]/usr/sub/ctxtF1" "b",
    Sample.event "Input" "/app/con[0]/ses[0]/wnd[0]/usr/ctxtF12" "c",
    Sample.event "Click" "/app/con[0]/ses[0]/wnd[0]/usr/tab/ctxtF1" ""])]) "va05"

theorem ofTransaction_oneToOne_crowded :
    ∃ t, crowded.normalize = .ok t ∧
      OneToOne (chooseHeads [t]) t (ofTransaction (chooseHeads [t]) t) ∧
      (ofTransaction (chooseHeads [t]) t).space.entries =
        [("filter.f1", "\x7b\x7busr\x7d\x7dctxtF1"),
          ("filter.f12", "\x7b\x7busr\x7d\x7dsub/ctxtF1"),
          ("filter.f122", "\x7b\x7busr\x7d\x7dctxtF12"),
          ("filter.f13", "\x7b\x7busr\x7d\x7dtab/ctxtF1")] := by
  obtain ⟨t, ht⟩ : ∃ t, crowded.normalize = .ok t := ⟨_, rfl⟩
  refine ⟨t, ht, ofTransaction_oneToOne ht [t], ?_⟩
  cases ht
  rfl

end Naming

end ReplayFlow.Alias
