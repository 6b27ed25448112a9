import ReplayFlow.Proofs.Recording.Registry

/-!
What the control registry says of the steps. It lists the controls that steps work
on in the order of their first use, counts the steps at each, and keeps the kind of
the first of them (`Tallies`). Every step that is taken in keeps it so
(`tallyAt_addStep`, `inFirstUse_addStep`), so it is so for every recording that is
accepted (`tallies_normalize`).
-/

namespace ReplayFlow

namespace Step

variable {path : String} {step : Step}

/-- A click or an input at the control of a path. -/
structure WorksOn (path : String) (step : Step) : Prop where
  target : step.target = some path
  action : step.action = "click" ∨ step.action = "set"
  rooted : ∃ rest, path.toList = '/' :: rest

theorem control?_eq_some_iff_worksOn : step.control? = some path ↔ step.WorksOn path := by
  rw [control?_eq_some_iff, Alias.isRooted_iff]
  exact ⟨fun h => ⟨h.1, h.2.1, h.2.2⟩, fun h => ⟨h.target, h.action, h.rooted⟩⟩

instance (path : String) (step : Step) : Decidable (step.WorksOn path) :=
  decidable_of_iff _ control?_eq_some_iff_worksOn

end Step

namespace Transaction

variable {t : Transaction} {steps : List Step} {step : Step} {path : String}

/-- The steps that work on a control, in order. -/
def usesOf (path : String) (steps : List Step) : List Step :=
  steps.filter fun step => step.WorksOn path

/-- The place of the first step that works on a control. -/
def firstUse (steps : List Step) (path : String) : Nat :=
  steps.findIdx fun step => step.WorksOn path

/-- The registry lists controls in the order of their first use. -/
def InFirstUse (t : Transaction) : Prop :=
  t.controls.keys.Pairwise fun path later => firstUse t.steps path < firstUse t.steps later

/-- What a registry says of the steps. -/
structure Tallies (t : Transaction) : Prop where
  used : ∀ path, path ∈ t.controls.keys ↔ ∃ step ∈ t.steps, step.WorksOn path
  once : t.controls.keys.Nodup
  ordered : t.InFirstUse
  counted : ∀ path info, t.controls.get? path = some info →
    info.occurrences = (usesOf path t.steps).length
  kind : ∀ path info, t.controls.get? path = some info →
    ∃ first rest, usesOf path t.steps = first :: rest ∧ info.kind = first.kind

/-! ## Counting -/

/-- What is kept of the steps that work on one control. -/
def tally : List Step → Option (Option String × Nat)
  | [] => none
  | first :: rest => some (first.kind, rest.length + 1)

/-- What the registry has for one control, the name apart. -/
def tallyAt (t : Transaction) (path : String) : Option (Option String × Nat) :=
  (t.controls.get? path).map fun info => (info.kind, info.occurrences)

theorem tally_concat (uses : List Step) (step : Step) :
    tally (uses ++ [step]) =
      some (((tally uses).map fun known => (known.1, known.2 + 1)).getD (step.kind, 1)) := by
  cases uses with
  | nil => rfl
  | cons first rest => simp [tally]

theorem usesOf_concat (path : String) (steps : List Step) (step : Step) :
    usesOf path (steps ++ [step]) =
      usesOf path steps ++ if step.WorksOn path then [step] else [] := by
  rw [usesOf, List.filter_append, usesOf]
  by_cases h : step.WorksOn path <;> simp [h]

/-- A step that is taken in is counted at the control it works on, and nowhere else. -/
theorem tallyAt_addStep (h : ∀ path, t.tallyAt path = tally (usesOf path t.steps)) (step : Step)
    (name : Option String) (path : String) :
    (t.addStep step name).tallyAt path = tally (usesOf path (t.addStep step name).steps) := by
  rw [steps_addStep, usesOf_concat, tallyAt, addStep]
  cases hcontrol : step.control? with
  | none =>
    have hidle : ¬step.WorksOn path := by
      rw [← Step.control?_eq_some_iff_worksOn, hcontrol]
      exact nofun
    rw [if_neg hidle, List.append_nil, ← h path]
    rfl
  | some control =>
    simp only [registerControl, OrderedMap.get?_insert]
    by_cases hpath : control = path
    · subst hpath
      have hworks := Step.control?_eq_some_iff_worksOn.1 hcontrol
      rw [if_pos rfl, if_pos hworks, tally_concat, ← h control, tallyAt]
      cases t.controls.get? control <;> rfl
    · have hidle : ¬step.WorksOn path := by
        rw [← Step.control?_eq_some_iff_worksOn, hcontrol, Option.some.injEq]
        exact hpath
      rw [if_neg hpath, if_neg hidle, List.append_nil, ← h path]
      rfl

theorem Recorded.tallyAt_eq (h : t.Recorded) :
    ∀ path, t.tallyAt path = tally (usesOf path t.steps) := by
  induction h with
  | empty hsteps hcontrols =>
    intro path
    rw [tallyAt, hcontrols, hsteps]
    rfl
  | addStep name _ _ ih => exact tallyAt_addStep ih _ name

/-! ## Order -/

/-- The first use of a control is not moved by the steps behind it. -/
theorem firstUse_concat_of_used (h : ∃ step ∈ steps, step.WorksOn path) (step : Step) :
    firstUse (steps ++ [step]) path = firstUse steps path ∧ firstUse steps path < steps.length := by
  have hfound : firstUse steps path < steps.length := by
    rw [firstUse, List.findIdx_lt_length]
    simpa using h
  rw [firstUse, List.findIdx_append, ← firstUse, if_pos hfound]
  exact ⟨rfl, hfound⟩

theorem length_le_firstUse_concat (h : ¬∃ step ∈ steps, step.WorksOn path) (step : Step) :
    steps.length ≤ firstUse (steps ++ [step]) path := by
  have hnone : ¬firstUse steps path < steps.length := by
    rw [firstUse, List.findIdx_lt_length]
    simpa using h
  rw [firstUse, List.findIdx_append, ← firstUse, if_neg hnone]
  exact Nat.le_add_left ..

/-- A step brings in no control but a new one that it works on, and that one comes last. -/
theorem keys_addStep (t : Transaction) (step : Step) (name : Option String) :
    (t.addStep step name).controls.keys = t.controls.keys ∨
      ∃ control, control ∉ t.controls.keys ∧
        (t.addStep step name).controls.keys = t.controls.keys ++ [control] := by
  unfold addStep
  cases step.control? with
  | none => exact .inl rfl
  | some control =>
    simp only [registerControl, OrderedMap.keys_insert]
    by_cases hknown : control ∈ t.controls.keys
    · exact .inl (if_pos hknown)
    · exact .inr ⟨control, hknown, if_neg hknown⟩

theorem mem_keys_iff_worksOn (h : t.Registered) (path : String) :
    path ∈ t.controls.keys ↔ ∃ step ∈ t.steps, step.WorksOn path := by
  simp only [h path, Step.control?_eq_some_iff_worksOn]

theorem inFirstUse_addStep (hregistered : t.Registered) (h : t.InFirstUse) (step : Step)
    (name : Option String) : (t.addStep step name).InFirstUse := by
  have hused := mem_keys_iff_worksOn hregistered
  have hold : t.controls.keys.Pairwise fun path later =>
      firstUse (t.steps ++ [step]) path < firstUse (t.steps ++ [step]) later := by
    refine h.imp_of_mem fun hpath hlater hbefore => ?_
    rw [(firstUse_concat_of_used ((hused _).1 hpath) step).1,
      (firstUse_concat_of_used ((hused _).1 hlater) step).1]
    exact hbefore
  rw [InFirstUse, steps_addStep]
  rcases keys_addStep t step name with hkeys | ⟨control, hnew, hkeys⟩
  · rw [hkeys]
    exact hold
  · rw [hkeys]
    refine List.pairwise_append.2
      ⟨hold, List.pairwise_singleton .., fun path hpath later hlater => ?_⟩
    obtain ⟨hsame, hfound⟩ := firstUse_concat_of_used ((hused path).1 hpath) step
    rw [List.mem_singleton.1 hlater, hsame]
    exact Nat.lt_of_lt_of_le hfound
      (length_le_firstUse_concat (mt (hused control).2 hnew) step)

theorem Recorded.inFirstUse (h : t.Recorded) : t.InFirstUse := by
  induction h with
  | empty _ hcontrols =>
    rw [InFirstUse, hcontrols]
    exact List.Pairwise.nil
  | addStep name hrecorded _ ih => exact inFirstUse_addStep hrecorded.registered ih _ name

/-! ## The registry -/

/-- What is kept of a registered control are its first use and the number of its uses. -/
theorem Recorded.uses_of_get? (h : t.Recorded) {info : ControlInfo}
    (hget : t.controls.get? path = some info) :
    ∃ first rest, usesOf path t.steps = first :: rest ∧ info.kind = first.kind ∧
      info.occurrences = rest.length + 1 := by
  have htally := h.tallyAt_eq path
  rw [tallyAt, hget, Option.map_some] at htally
  cases huses : usesOf path t.steps with
  | nil =>
    rw [huses] at htally
    cases htally
  | cons first rest =>
    rw [huses, tally, Option.some.injEq, Prod.mk.injEq] at htally
    exact ⟨first, rest, rfl, htally⟩

theorem Recorded.tallies (h : t.Recorded) : t.Tallies := by
  refine ⟨mem_keys_iff_worksOn h.registered, t.controls.nodup, h.inFirstUse, ?_, ?_⟩
  · intro path info hget
    obtain ⟨first, rest, huses, _, hcount⟩ := h.uses_of_get? hget
    rw [huses, hcount, List.length_cons]
  · intro path info hget
    obtain ⟨first, rest, huses, hkind, _⟩ := h.uses_of_get? hget
    exact ⟨first, rest, huses, hkind⟩

end Transaction

/-- **The registry counts the steps.** Of an accepted recording of any shape it lists the controls
that steps work on, each once and in the order of first use, with the number of steps that work on
it and with the kind that the first of them gives. -/
theorem Recording.tallies_normalize {recording : Recording} {t : Transaction}
    (h : recording.normalize = .ok t) : t.Tallies :=
  (recorded_normalize h).tallies

/-- A control used three times under two kinds, a wait for it, and a click on no control path. -/
def Sample.repeated : Json :=
  let step (action target kind : String) : Json :=
    .obj [("action", .str action), ("target", .str target), ("controlType", .str kind)]
  .obj [("steps", .obj [("fill", step "Input" "/usr/ctxtA" "GuiCTextField"),
    ("run", step "click" "/btn[8]" "GuiButton"), ("wait", step "waitFor" "/usr/ctxtA" "GuiShell"),
    ("again", step "set" "/usr/ctxtA" "GuiTextField"), ("menu", step "click" "menu" "GuiMenu"),
    ("press", step "dblClick" "/usr/ctxtA" "")])]

theorem Recording.tallies_normalize_repeated :
    ∃ t, (Recording.ofDocument Sample.repeated "va01").normalize = .ok t ∧ t.Tallies ∧
      t.controls.entries.map (fun control => (control.1, control.2.kind, control.2.occurrences)) =
        [("/usr/ctxtA", some "GuiCTextField", 3), ("/btn[8]", some "GuiButton", 1)] := by
  have hok : ∃ t, (Recording.ofDocument Sample.repeated "va01").normalize = .ok t ∧
      t.controls.entries.map (fun control => (control.1, control.2.kind, control.2.occurrences)) =
        [("/usr/ctxtA", some "GuiCTextField", 3), ("/btn[8]", some "GuiButton", 1)] :=
    ⟨_, rfl, rfl⟩
  obtain ⟨t, ht, hcontrols⟩ := hok
  exact ⟨t, ht, Recording.tallies_normalize ht, hcontrols⟩

end ReplayFlow
