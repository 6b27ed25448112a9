import Mathlib.Data.List.Induction
import ReplayFlow.Proofs.Control.Area
import ReplayFlow.Proofs.Data.OrderedMap
import ReplayFlow.Transaction

/-!
The collections of a transaction. Areas and kinds are added at the end and once
(`foldl_addNew`), and a control is counted at the place of its first registration. So
every change extends what there was (`extends_change`), and the registry has just what
the first registration of a path gave, with the number of its registrations
(`get?_changeAll`). The analysis adds what the registry calls for (`analyze_eq`); when it
is made again it finds all of it there (`analyze_analyze`).
-/

namespace ReplayFlow

/-! ## Adding once -/

namespace Area

variable {known items : List String} {value : String}

/-- Writing under keys adds them as values are added. -/
theorem keys_insertAll_eq_foldl {α : Type} (es more : Entries α) :
    Entries.keys (Entries.insertAll es more) =
      (Entries.keys more).foldl addNew (Entries.keys es) := by
  induction more generalizing es with
  | nil => rfl
  | cons entry rest ih =>
    have hkey : Entries.keys (Entries.insert es entry.1 entry.2) =
        addNew (Entries.keys es) entry.1 := Entries.keys_insert ..
    have hrest := ih (Entries.insert es entry.1 entry.2)
    rw [hkey] at hrest
    exact hrest

/-- Values as the keys of a mapping to nothing. -/
theorem keys_units (values : List String) :
    Entries.keys (values.map fun value => (value, ())) = values := by
  simp [Entries.keys, Function.comp_def]

theorem foldl_addNew_eq_keys (known items : List String) :
    items.foldl addNew known = Entries.keys (Entries.insertAll
      (known.map fun value => (value, ())) (items.map fun value => (value, ()))) := by
  rw [keys_insertAll_eq_foldl, keys_units, keys_units]

theorem foldl_addNew (known items : List String) :
    items.foldl addNew known = known ++ (items.removeAll known).eraseDups := by
  rw [foldl_addNew_eq_keys, Entries.keys_insertAll, keys_units, keys_units]

theorem foldl_addNew_nil (items : List String) : items.foldl addNew [] = items.eraseDups := by
  have hnone : items.removeAll [] = items := List.filter_eq_self.2 fun _ _ => rfl
  rw [foldl_addNew, hnone, List.nil_append]

theorem nodup_foldl_addNew (h : known.Nodup) (items : List String) :
    (items.foldl addNew known).Nodup := by
  rw [foldl_addNew_eq_keys]
  exact Entries.nodup_keys_insertAll _ ((keys_units known).symm ▸ h)

theorem mem_foldl_addNew :
    value ∈ items.foldl addNew known ↔ value ∈ known ∨ value ∈ items := by
  rw [foldl_addNew, List.mem_append, List.mem_eraseDups]
  by_cases h : value ∈ known <;> simp [List.removeAll, h]

theorem prefix_foldl_addNew (known items : List String) : known <+: items.foldl addNew known := by
  rw [foldl_addNew]
  exact List.prefix_append ..

theorem foldl_addNew_of_subset (h : items ⊆ known) : items.foldl addNew known = known := by
  have hnone : items.removeAll known = [] := by
    simpa [List.removeAll, List.filter_eq_nil_iff] using fun _ hmem => h hmem
  rw [foldl_addNew, hnone]
  exact List.append_nil known

/-- The areas that are told for a path are those that it lies in. -/
theorem mem_ofPath_iff {path head : String} : head ∈ ofPath path ↔ IsAreaOf path head := by
  have husable : usable? path = some head ↔ ∃ window, LiesIn path head window :=
    ⟨exists_liesIn, fun ⟨_, h⟩ => (liesIn_iff.1 h).1⟩
  have hpopup : popup? path = some head → ∃ window, LiesIn path head window :=
    fun h => ⟨_, popup?_eq_some_iff.1 h⟩
  have hmem : head ∈ ofPath path ↔
      usable? path = some head ∨ popup? path = some head ∨ toolbar? path = some head := by
    simp [ofPath, mem_foldl_addNew, eq_comm]
  rw [hmem, husable, toolbar?_eq_some_iff, IsAreaOf, ← or_assoc, or_iff_left_of_imp hpopup]

end Area

namespace Transaction

variable {t u v : Transaction} {kind : String} {path : String}

/-! ## Areas and kinds -/

/-- The kinds that are given and not empty. -/
def givenKinds (kinds : List (Option String)) : List String :=
  (kinds.filterMap id).filter (· ≠ "")

theorem mem_givenKinds {kinds : List (Option String)} :
    kind ∈ givenKinds kinds ↔ some kind ∈ kinds ∧ kind ≠ "" := by
  simp [givenKinds]

theorem givenKinds_append (kinds more : List (Option String)) :
    givenKinds (kinds ++ more) = givenKinds kinds ++ givenKinds more := by
  simp [givenKinds]

theorem addKind_eq (t : Transaction) (kind : Option String) :
    t.addKind kind = { t with kinds := (givenKinds [kind]).foldl Area.addNew t.kinds } := by
  unfold addKind
  cases kind with
  | none => rfl
  | some kind => by_cases h : kind = "" <;> simp [givenKinds, h]

theorem addKinds_eq (t : Transaction) (kinds : List (Option String)) :
    kinds.foldl addKind t = { t with kinds := (givenKinds kinds).foldl Area.addNew t.kinds } := by
  induction kinds generalizing t with
  | nil => rfl
  | cons kind rest ih =>
    have hcons : givenKinds (kind :: rest) = givenKinds [kind] ++ givenKinds rest :=
      givenKinds_append [kind] rest
    rw [List.foldl_cons, ih, addKind_eq, hcons, List.foldl_append]

theorem addAreas_eq (t : Transaction) (areas : List String) :
    areas.foldl addArea t = { t with areas := areas.foldl Area.addNew t.areas } := by
  induction areas generalizing t with
  | nil => rfl
  | cons area rest ih => exact ih (t.addArea area)

theorem kinds_addStep (t : Transaction) (step : Step) (name : Option String) :
    (t.addStep step name).kinds = t.kinds := by
  unfold addStep
  cases step.control? <;> rfl

/-- What the registry calls for: the areas of its paths and its kinds. -/
def calledAreas (controls : Entries ControlInfo) : List String :=
  (Entries.keys controls).flatMap Area.ofPath

def calledKinds (controls : Entries ControlInfo) : List String :=
  givenKinds ((Entries.values controls).map ControlInfo.kind)

theorem analyze_eq (t : Transaction) :
    t.analyze = { t with
      areas := (calledAreas t.controls.entries).foldl Area.addNew t.areas
      kinds := (calledKinds t.controls.entries).foldl Area.addNew t.kinds } := by
  -- the registry stays as it is while the controls read from it are taken in
  have hcontrols : ∀ (controls : Entries ControlInfo) (u : Transaction),
      controls.foldl (fun acc control => acc.analyzeControl control.1 control.2) u = { u with
        areas := (calledAreas controls).foldl Area.addNew u.areas
        kinds := (calledKinds controls).foldl Area.addNew u.kinds } := by
    intro controls
    induction controls with
    | nil => exact fun _ => rfl
    | cons control rest ih =>
      intro u
      have hareas : calledAreas (control :: rest) = Area.ofPath control.1 ++ calledAreas rest := rfl
      have hkinds : calledKinds (control :: rest) =
          givenKinds [control.2.kind] ++ calledKinds rest := givenKinds_append [control.2.kind] _
      rw [List.foldl_cons, ih, analyzeControl, addAreas_eq, addKind_eq, hareas, hkinds,
        List.foldl_append, List.foldl_append]
  exact hcontrols t.controls.entries t

/-- The analysis adds nothing to what it has added. -/
theorem analyze_analyze (t : Transaction) : t.analyze.analyze = t.analyze := by
  have hareas : calledAreas t.analyze.controls.entries ⊆ t.analyze.areas := by
    rw [analyze_eq]
    exact fun _ h => Area.mem_foldl_addNew.2 (.inr h)
  have hkinds : calledKinds t.analyze.controls.entries ⊆ t.analyze.kinds := by
    rw [analyze_eq]
    exact fun _ h => Area.mem_foldl_addNew.2 (.inr h)
  rw [analyze_eq t.analyze, Area.foldl_addNew_of_subset hareas, Area.foldl_addNew_of_subset hkinds]

/-! ## Changes -/

/-- A call on a transaction. -/
inductive Change
  | registerControl (path displayName : String) (kind : Option String)
  | addArea (area : String)
  | addKind (kind : Option String)
  | analyze

def change (t : Transaction) : Change → Transaction
  | .registerControl path displayName kind => t.registerControl path displayName kind
  | .addArea area => t.addArea area
  | .addKind kind => t.addKind kind
  | .analyze => t.analyze

def changeAll (t : Transaction) (changes : List Change) : Transaction := changes.foldl change t

theorem changeAll_append (t : Transaction) (changes more : List Change) :
    t.changeAll (changes ++ more) = (t.changeAll changes).changeAll more :=
  List.foldl_append ..

namespace Change

/-- The areas that a change of a transaction calls for. -/
def areas (t : Transaction) : Change → List String
  | addArea area => [area]
  | analyze => calledAreas t.controls.entries
  | _ => []

def kinds (t : Transaction) : Change → List String
  | addKind kind => givenKinds [kind]
  | analyze => calledKinds t.controls.entries
  | _ => []

/-- The name and the kind under which a change registers a path. -/
def registration? (path : String) : Change → Option (String × Option String)
  | registerControl other displayName kind =>
    if other = path then some (displayName, kind) else none
  | _ => none

end Change

theorem areas_change (t : Transaction) (change : Change) :
    (t.change change).areas = (change.areas t).foldl Area.addNew t.areas := by
  cases change with
  | registerControl => rfl
  | addArea => rfl
  | addKind kind => rw [Transaction.change, addKind_eq]; rfl
  | analyze => rw [Transaction.change, analyze_eq]; rfl

theorem kinds_change (t : Transaction) (change : Change) :
    (t.change change).kinds = (change.kinds t).foldl Area.addNew t.kinds := by
  cases change with
  | registerControl => rfl
  | addArea => rfl
  | addKind kind => rw [Transaction.change, addKind_eq]; rfl
  | analyze => rw [Transaction.change, analyze_eq]; rfl

/-- No change calls for an empty kind. -/
theorem empty_not_mem_kinds (t : Transaction) (change : Change) : "" ∉ change.kinds t := by
  have hgiven : ∀ kinds, "" ∉ givenKinds kinds := fun kinds h => (mem_givenKinds.1 h).2 rfl
  cases change with
  | registerControl => exact List.not_mem_nil
  | addArea => exact List.not_mem_nil
  | addKind kind => exact hgiven _
  | analyze => exact hgiven _

/-! ## The registry -/

/-- A change registers a control or leaves the registry alone. -/
theorem controls_change (t : Transaction) (change : Change) :
    (∃ path displayName kind, change = .registerControl path displayName kind) ∨
      ((t.change change).controls = t.controls ∧ ∀ path, change.registration? path = none) := by
  cases change with
  | registerControl path displayName kind => exact .inl ⟨path, displayName, kind, rfl⟩
  | addArea => exact .inr ⟨rfl, fun _ => rfl⟩
  | addKind kind => exact .inr ⟨by rw [Transaction.change, addKind_eq], fun _ => rfl⟩
  | analyze => exact .inr ⟨by rw [Transaction.change, analyze_eq], fun _ => rfl⟩

/-- What a registry has for a control after some registrations. -/
def registered : List (String × Option String) → Option ControlInfo
  | [] => none
  | first :: rest => some ⟨first.1, first.2, rest.length + 1⟩

/-- The registrations of a path among some changes. -/
def registrationsOf (path : String) (changes : List Change) : List (String × Option String) :=
  changes.filterMap (Change.registration? path)

theorem registered_concat (calls : List (String × Option String))
    (call : String × Option String) :
    registered (calls ++ [call]) = some (((registered calls).map fun known =>
      { known with occurrences := known.occurrences + 1 }).getD ⟨call.1, call.2, 1⟩) := by
  cases calls with
  | nil => rfl
  | cons first rest => simp [registered]

theorem get?_registerControl (t : Transaction) (path displayName : String) (kind : Option String)
    (other : String) :
    (t.registerControl path displayName kind).controls.get? other =
      if path = other then some (((t.controls.get? path).map fun known =>
        { known with occurrences := known.occurrences + 1 }).getD ⟨displayName, kind, 1⟩)
      else t.controls.get? other := by
  rw [registerControl, OrderedMap.get?_insert]
  cases t.controls.get? path <;> rfl

/-- A change is counted at the path that it registers, and nowhere else. -/
theorem get?_change {calls : List (String × Option String)}
    (h : t.controls.get? path = registered calls) (change : Change) :
    (t.change change).controls.get? path =
      registered (calls ++ (change.registration? path).toList) := by
  rcases controls_change t change with ⟨other, displayName, kind, rfl⟩ | ⟨hsame, hnone⟩
  · rw [Transaction.change, get?_registerControl, Change.registration?]
    by_cases hpath : other = path
    · subst hpath
      rw [if_pos rfl, if_pos rfl, h]
      exact (registered_concat calls (displayName, kind)).symm
    · rw [if_neg hpath, if_neg hpath, h, Option.toList_none, List.append_nil]
  · rw [hsame, hnone, h, Option.toList_none, List.append_nil]

theorem registrationsOf_concat (path : String) (changes : List Change) (change : Change) :
    registrationsOf path (changes ++ [change]) =
      registrationsOf path changes ++ (change.registration? path).toList := by
  rw [registrationsOf, List.filterMap_append, registrationsOf]
  cases hcall : change.registration? path <;> simp [hcall]

theorem get?_changeAll (h : t.controls = ∅) (path : String) (changes : List Change) :
    (t.changeAll changes).controls.get? path = registered (registrationsOf path changes) := by
  induction changes using List.reverseRecOn with
  | nil => rw [changeAll, List.foldl_nil, h]; rfl
  | append_singleton before change ih =>
    rw [changeAll_append, registrationsOf_concat]
    exact get?_change ih change

/-! ## What is kept -/

/-- The later state has all entries of the earlier one, each in its place, and of a control that
was registered more often the same name and kind. -/
structure Extends (t u : Transaction) : Prop where
  areas : t.areas <+: u.areas
  kinds : t.kinds <+: u.kinds
  paths : t.controls.keys <+: u.controls.keys
  controls : ∀ path info, t.controls.get? path = some info → ∃ later,
    u.controls.get? path = some later ∧ later.displayName = info.displayName ∧
      later.kind = info.kind ∧ info.occurrences ≤ later.occurrences

namespace Extends

theorem refl (t : Transaction) : Extends t t :=
  ⟨List.prefix_rfl, List.prefix_rfl, List.prefix_rfl,
    fun _ info h => ⟨info, h, rfl, rfl, Nat.le_refl _⟩⟩

theorem trans (h : Extends t u) (h' : Extends u v) : Extends t v := by
  refine ⟨h.areas.trans h'.areas, h.kinds.trans h'.kinds, h.paths.trans h'.paths, ?_⟩
  intro path info hget
  obtain ⟨later, hlater, hname, hkind, hcount⟩ := h.controls path info hget
  obtain ⟨last, hlast, hname', hkind', hcount'⟩ := h'.controls path later hlater
  exact ⟨last, hlast, hname'.trans hname, hkind'.trans hkind, Nat.le_trans hcount hcount'⟩

end Extends

theorem extends_change (t : Transaction) (change : Change) : Extends t (t.change change) := by
  have hareas : t.areas <+: (t.change change).areas := by
    rw [areas_change]
    exact Area.prefix_foldl_addNew ..
  have hkinds : t.kinds <+: (t.change change).kinds := by
    rw [kinds_change]
    exact Area.prefix_foldl_addNew ..
  -- a registration writes one control, and any other change none
  rcases controls_change t change with ⟨path, displayName, kind, rfl⟩ | ⟨hsame, _⟩
  · refine ⟨hareas, hkinds, ?_, fun other info hget => ?_⟩
    · rw [Transaction.change, registerControl, OrderedMap.keys_insert]
      split
      · exact List.prefix_rfl
      · exact List.prefix_append ..
    · rw [Transaction.change, get?_registerControl]
      by_cases hpath : path = other
      · subst hpath
        rw [if_pos rfl, hget]
        exact ⟨_, rfl, rfl, rfl, Nat.le_succ _⟩
      · rw [if_neg hpath]
        exact ⟨info, hget, rfl, rfl, Nat.le_refl _⟩
  · have hpaths : (t.change change).controls.keys = t.controls.keys := congrArg _ hsame
    refine ⟨hareas, hkinds, hpaths ▸ List.prefix_rfl, ?_⟩
    rw [hsame]
    exact (Extends.refl t).controls

theorem extends_changeAll (t : Transaction) (changes : List Change) :
    Extends t (t.changeAll changes) := by
  induction changes generalizing t with
  | nil => exact .refl t
  | cons change rest ih => exact (extends_change t change).trans (ih _)

theorem once_changeAll (hareas : t.areas.Nodup) (hkinds : t.kinds.Nodup) (hempty : "" ∉ t.kinds)
    (changes : List Change) :
    (t.changeAll changes).areas.Nodup ∧ (t.changeAll changes).kinds.Nodup ∧
      "" ∉ (t.changeAll changes).kinds := by
  induction changes generalizing t with
  | nil => exact ⟨hareas, hkinds, hempty⟩
  | cons change rest ih =>
    refine ih ?_ ?_ ?_
    · rw [areas_change]
      exact Area.nodup_foldl_addNew hareas _
    · rw [kinds_change]
      exact Area.nodup_foldl_addNew hkinds _
    · rw [kinds_change, Area.mem_foldl_addNew]
      exact not_or.2 ⟨hempty, empty_not_mem_kinds t change⟩

/-! ## Histories -/

/-- What holds of a transaction after some changes. -/
structure Grown (changes : List Change) (t : Transaction) : Prop where
  areas_once : t.areas.Nodup
  kinds_once : t.kinds.Nodup
  no_empty : "" ∉ t.kinds
  controls : ∀ path, t.controls.get? path = registered (registrationsOf path changes)

/-- The areas that the paths in the registry lie in are there, and all its kinds that are not
empty. -/
structure Analyzed (t : Transaction) : Prop where
  areas : ∀ path ∈ t.controls.keys, ∀ area, Area.IsAreaOf path area → area ∈ t.areas
  kinds : ∀ path info kind, t.controls.get? path = some info → info.kind = some kind →
    kind ≠ "" → kind ∈ t.kinds

theorem analyzed_analyze (t : Transaction) : Analyzed t.analyze := by
  rw [analyze_eq]
  refine ⟨fun path hpath area harea => ?_, fun path info kind hget hkind hne => ?_⟩
  · exact Area.mem_foldl_addNew.2
      (.inr (List.mem_flatMap.2 ⟨path, hpath, Area.mem_ofPath_iff.2 harea⟩))
  · have hinfo : some kind ∈ t.controls.values.map ControlInfo.kind :=
      List.mem_map.2 ⟨info, OrderedMap.mem_values_of_get? hget, hkind⟩
    exact Area.mem_foldl_addNew.2 (.inr (mem_givenKinds.2 ⟨hinfo, hne⟩))

/-- **A transaction only grows.** After any changes of an empty transaction, areas and kinds are
there once, no kind is empty, and a control has the name and kind of the first registration of its
path and is counted as often as the path was registered. Further changes leave all of it in place.
An analysis makes the areas and kinds complete for the registry, and a second one behind it changes
nothing. -/
theorem grown_changeAll (tcode : String) (format : Format) (header targetContext : Entries Json)
    (changes : List Change) :
    let empty : Transaction := { tcode, format, header, targetContext }
    Grown changes (empty.changeAll changes) ∧
      (∀ more, Extends (empty.changeAll changes) (empty.changeAll (changes ++ more))) ∧
      Analyzed (empty.changeAll (changes ++ [.analyze])) ∧
      empty.changeAll (changes ++ [.analyze, .analyze]) =
        empty.changeAll (changes ++ [.analyze]) := by
  intro empty
  obtain ⟨hareas, hkinds, hempty⟩ :=
    once_changeAll (t := empty) List.nodup_nil List.nodup_nil List.not_mem_nil changes
  refine ⟨⟨hareas, hkinds, hempty, fun path => get?_changeAll rfl path changes⟩, ?_, ?_, ?_⟩
  · intro more
    rw [changeAll_append]
    exact extends_changeAll _ more
  · rw [changeAll_append]
    exact analyzed_analyze _
  · rw [changeAll_append, changeAll_append]
    exact analyze_analyze _

/-- The kind of a second registration is not kept, so the analysis does not add it. -/
example :
    let press : String := "/app/con[0]/ses[0]/wnd[1]/usr/btn[8]"
    let grown := ({ tcode := "va01", format := .legacy } : Transaction).changeAll
      [.registerControl press "Save" (some "GuiButton"), .addKind (some ""),
        .registerControl press "Store" (some "GuiShell"), .analyze]
    grown.controls.entries = [(press, ⟨"Save", some "GuiButton", 2⟩)] ∧
      grown.areas = ["/app/con[0]/ses[0]/wnd[1]/usr/"] ∧ grown.kinds = ["GuiButton"] := by
  decide

end Transaction

end ReplayFlow
