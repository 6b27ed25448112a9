import ReplayFlow.Batch.Context
import ReplayFlow.Path
import ReplayFlow.Proofs.Alias.Shortening
import ReplayFlow.Proofs.Recording.Shapes

/-!
The control registry of a transaction. Whatever is recorded takes in its steps
one by one (`Recorded`, `recorded_normalize`). Every step that is added keeps
the registry exact (`Registered`): a path is registered just when some step
works on the control there. Since only control paths count as such, all
registered paths start at the root (`isRooted_of_registered`).
-/

namespace ReplayFlow

namespace Step

theorem control?_eq_some_iff {step : Step} {path : String} :
    step.control? = some path ↔ step.target = some path ∧
      (step.action = "click" ∨ step.action = "set") ∧ Alias.IsRooted path := by
  unfold control? Alias.IsRooted
  cases step.target with
  | none => simp
  | some target =>
    dsimp only
    split
    · rename_i h
      rw [Option.some.injEq]
      exact ⟨fun e => ⟨e, e ▸ h⟩, fun h' => h'.1⟩
    · rename_i h
      refine ⟨nofun, ?_⟩
      rintro ⟨e, h'⟩
      cases e
      exact absurd h' h

end Step

namespace Transaction

variable {t : Transaction}

/-- A path is registered just when a step works on the control there. -/
def Registered (t : Transaction) : Prop :=
  ∀ path, path ∈ t.controls.keys ↔ ∃ step ∈ t.steps, step.control? = some path

theorem isRooted_of_registered (h : t.Registered) {path : String} (hpath : path ∈ t.controls.keys) :
    Alias.IsRooted path := by
  obtain ⟨step, _, hcontrol⟩ := (h path).1 hpath
  exact (Step.control?_eq_some_iff.1 hcontrol).2.2

/-! ## One step -/

theorem steps_addStep (t : Transaction) (step : Step) (name : Option String) :
    (t.addStep step name).steps = t.steps ++ [step] := by
  unfold addStep
  cases step.control? <;> rfl

theorem mem_controls_addStep (t : Transaction) (step : Step) (name : Option String)
    (path : String) :
    path ∈ (t.addStep step name).controls.keys ↔
      path ∈ t.controls.keys ∨ step.control? = some path := by
  unfold addStep
  cases hcontrol : step.control? with
  | none => simp
  | some control =>
    simp only [registerControl, OrderedMap.keys_insert, Option.some.injEq]
    by_cases hknown : control ∈ t.controls.keys
    · rw [if_pos hknown]
      refine ⟨Or.inl, ?_⟩
      rintro (h | rfl)
      · exact h
      · exact hknown
    · rw [if_neg hknown, List.mem_append, List.mem_singleton, eq_comm (a := control)]

theorem registered_addStep (h : t.Registered) (step : Step) (name : Option String) :
    (t.addStep step name).Registered := by
  intro path
  rw [mem_controls_addStep, h path, steps_addStep]
  constructor
  · rintro (⟨known, hmem, hcontrol⟩ | hcontrol)
    · exact ⟨known, List.mem_append_left _ hmem, hcontrol⟩
    · exact ⟨step, List.mem_append_right _ (List.mem_singleton_self _), hcontrol⟩
  · rintro ⟨known, hmem, hcontrol⟩
    rcases List.mem_append.1 hmem with hold | hnew
    · exact .inl ⟨known, hold, hcontrol⟩
    · rw [List.mem_singleton] at hnew
      exact .inr (hnew ▸ hcontrol)

/-- A transaction that takes in its steps one by one, none of them with a name. -/
inductive Recorded : Transaction → Prop
  | empty {t : Transaction} : t.steps = [] → t.controls = ∅ → Recorded t
  | addStep {t : Transaction} {step : Step} (name : Option String) : Recorded t →
      step.aliasName = none → Recorded (t.addStep step name)

theorem Recorded.registered (h : t.Recorded) : t.Registered := by
  induction h with
  | empty hsteps hcontrols =>
    intro path
    simp [hsteps, hcontrols, OrderedMap.keys, Entries.keys]
  | addStep name _ _ ih => exact registered_addStep ih _ name

theorem Recorded.aliasName_eq_none (h : t.Recorded) : ∀ step ∈ t.steps, step.aliasName = none := by
  induction h with
  | empty hsteps _ => simp [hsteps]
  | addStep name _ hstep ih =>
    rw [steps_addStep]
    exact List.forall_mem_append.2 ⟨ih, List.forall_mem_singleton.2 hstep⟩

/-! ## Kinds and areas -/

/-- What kinds and areas leave alone. -/
structure SameSteps (t u : Transaction) : Prop where
  tcode : u.tcode = t.tcode
  format : u.format = t.format
  steps : u.steps = t.steps
  controls : u.controls = t.controls

theorem SameSteps.registered {u : Transaction} (h : SameSteps t u) (ht : t.Registered) :
    u.Registered := by
  intro path
  rw [h.controls, h.steps]
  exact ht path

theorem sameSteps_addKinds (t : Transaction) (kinds : List (Option String)) :
    SameSteps t (kinds.foldl addKind t) := by
  rw [addKinds_eq]
  exact ⟨rfl, rfl, rfl, rfl⟩

theorem sameSteps_analyze (t : Transaction) : SameSteps t t.analyze := by
  rw [analyze_eq]
  exact ⟨rfl, rfl, rfl, rfl⟩

/-- The analysis adds the areas of the registered paths, in their order. -/
theorem areas_analyze (t : Transaction) :
    t.analyze.areas = (t.controls.keys.flatMap Area.ofPath).foldl Area.addNew t.areas := by
  rw [analyze_eq]
  rfl

end Transaction

/-! ## Whole recordings -/

namespace Recording

variable {t : Transaction}

theorem aliasName_legacyStep (e : Event) (index : Nat) (next : String) :
    (legacyStep e index next).aliasName = none := by
  unfold legacyStep
  dsimp only
  split
  · rfl
  · split <;> rfl

theorem recorded_addLegacySteps (h : t.Recorded) (index : Nat) (groups : List Event) :
    (addLegacySteps t index groups).Recorded := by
  induction groups generalizing t index with
  | nil => exact h
  | cons e rest ih => exact ih (h.addStep _ (aliasName_legacyStep _ _ _)) _

theorem recorded_legacyTransaction (tcode : String) (events : List Json) :
    (legacyTransaction tcode events).Recorded := by
  have hkinds := Transaction.sameSteps_addKinds { tcode, format := .legacy }
    (events.map eventKind?)
  have hempty := Transaction.Recorded.empty hkinds.steps hkinds.controls
  unfold legacyTransaction
  refine .addStep none (recorded_addLegacySteps (.addStep none hempty ?_) 1 _) ?_ <;> rfl

theorem recorded_addSteps (h : t.Recorded) {steps : List Step}
    (hsteps : ∀ step ∈ steps, step.aliasName = none) : (t.addSteps steps).Recorded := by
  induction steps generalizing t with
  | nil => exact h
  | cons step rest ih =>
    obtain ⟨hstep, hrest⟩ := List.forall_mem_cons.1 hsteps
    exact ih (h.addStep none hstep) hrest

theorem recorded_normalize {recording : Recording} (h : recording.normalize = .ok t) :
    t.Recorded := by
  rcases normalize_cases h with ⟨code, rfl⟩ | ⟨_, _, _, _, steps, hsteps, rfl⟩
  · exact recorded_legacyTransaction _ _
  · exact recorded_addSteps (.empty rfl rfl) hsteps

end Recording

namespace Entry

variable {e : Entry} {t : Transaction}

theorem transaction_eq_ok_iff :
    e.transaction = .ok t ↔
      ∃ u, (Recording.ofDocument e.document e.tcode).normalize = .ok u ∧ t = u.analyze := by
  unfold transaction
  cases (Recording.ofDocument e.document e.tcode).normalize with
  | error fault => simp
  | ok u => simp [eq_comm]

theorem small_of_transaction (h : e.transaction = .ok t) : lowercase t.tcode = t.tcode := by
  obtain ⟨u, hu, rfl⟩ := transaction_eq_ok_iff.1 h
  rw [(Transaction.sameSteps_analyze u).tcode]
  exact Recording.small_normalize hu

/-- The entry that a document makes under its source. -/
def ofDocument (document : String × Json) : Entry :=
  ⟨document.1, tcodeOfSource document.1, document.2⟩

/-- The registry of every transaction that is read is exact. -/
theorem registered_of_transaction (h : e.transaction = .ok t) : t.Registered := by
  obtain ⟨u, hu, rfl⟩ := transaction_eq_ok_iff.1 h
  exact (Transaction.sameSteps_analyze u).registered (Recording.recorded_normalize hu).registered

theorem isRooted_of_transaction (h : e.transaction = .ok t) {path : String}
    (hpath : path ∈ t.controls.keys) : Alias.IsRooted path :=
  Transaction.isRooted_of_registered (registered_of_transaction h) hpath

end Entry

/-! ## A sample: two recordings that share one name and dispute another -/

namespace Sample

def event (action control value : String) : Json :=
  .obj [("Action", .str action), ("ControlId", .str control), ("Value", .str value)]

def create : Json :=
  .obj [("Tcode", .str "va01"), ("Steps", .arr [
    event "Input" "/app/con[0]/ses[0]/wnd[0]/usr/ctxtVBAK-AUART" "OR",
    event "Click" "/app/con[0]/ses[0]/wnd[0]/tbar[1]/btn[8]" ""])]

def change : Json :=
  .obj [("Tcode", .str "va02"), ("Steps", .arr [
    event "Click" "/app/con[0]/ses[0]/wnd[1]/usr/btn[8]" "",
    event "Input" "/app/con[0]/ses[0]/wnd[0]/usr/ctxtVBAK-AUART" "TA"])]

def documents : OrderedMap Json := .ofList [("change.json", change), ("create.json", create)]

theorem accepted_create :
    ∃ t, (Entry.ofDocument ("create.json", create)).transaction = .ok t ∧ t.tcode = "va01" ∧
      t.controls.keys = ["/app/con[0]/ses[0]/wnd[0]/usr/ctxtVBAK-AUART",
        "/app/con[0]/ses[0]/wnd[0]/tbar[1]/btn[8]"] :=
  ⟨_, rfl, rfl, rfl⟩

theorem accepted_change :
    ∃ t, (Entry.ofDocument ("change.json", change)).transaction = .ok t ∧ t.tcode = "va02" ∧
      t.controls.keys = ["/app/con[0]/ses[0]/wnd[1]/usr/btn[8]",
        "/app/con[0]/ses[0]/wnd[0]/usr/ctxtVBAK-AUART"] :=
  ⟨_, rfl, rfl, rfl⟩

end Sample

end ReplayFlow
