import ReplayFlow.Proofs.Flow.Contexts
import ReplayFlow.Proofs.Flow.Walk

/-!
What the checks see of a contextual flow. A group of steps is told from a step by
the key `action`, so a context is opened up unless one of its steps has that name;
then it is taken for a step itself (`stepsAt_context`). The checks see every step
of a contextual recording just where no step is named `action`
(`steps_of_contextual`).
-/

namespace ReplayFlow.Flow

open Recording

variable {contexts : Entries (Entries Body)} {context : String × Entries Body}

/-! ## One context -/

/-- A step of a context with the id it has in a flow. -/
def memberStep (context : String) (record : String × Body) : FlowStep :=
  ⟨context ++ "." ++ record.1, some context, Body.ofRecord record.2⟩

/-- What the checks see of a context. -/
def seenSteps (context : String × Entries Body) : List FlowStep :=
  if "action" ∈ Entries.keys context.2 then
    [⟨context.1, none, Entries.mapValues .obj (Entries.mapValues Body.ofRecord context.2)⟩]
  else context.2.map (memberStep context.1)

theorem contextSteps_ofRecord (context : String) (records : Entries Body) :
    contextSteps context (Entries.mapValues .obj (Entries.mapValues Body.ofRecord records)) =
      records.map (memberStep context) := by
  induction records with
  | nil => rfl
  | cons record rest ih => exact congrArg (memberStep context record :: ·) ih

theorem stepsAt_context (context : String × Entries Body) :
    stepsAt (context.1, .obj (Entries.mapValues .obj (Entries.mapValues Body.ofRecord context.2))) =
      seenSteps context := by
  have hkeys : Entries.contains (Entries.mapValues Json.obj
      (Entries.mapValues Body.ofRecord context.2)) "action" = true ↔
      "action" ∈ Entries.keys context.2 := by
    rw [Entries.contains, Entries.isSome_get?_iff, Entries.keys_mapValues, Entries.keys_mapValues]
  by_cases haction : "action" ∈ Entries.keys context.2
  · simp [stepsAt, stepBody?, hkeys.2 haction, seenSteps, haction]
  · have hgroup := (Bool.not_eq_true _).mp (mt hkeys.1 haction)
    simp [stepsAt, stepBody?, hgroup, seenSteps, haction, contextSteps_ofRecord]

/-! ## The flow -/

/-- The start of a contextual flow as the checks see it. -/
def startFlowStep (contexts : Entries (Entries Body)) : FlowStep :=
  ⟨startStep, none, startBody contexts⟩

/-- All steps of a contextual recording, behind a start. -/
def allSteps (contexts : Entries (Entries Body)) : List FlowStep :=
  startFlowStep contexts :: contexts.flatMap fun context => context.2.map (memberStep context.1)

/-- The steps of a contextual recording that the checks see. -/
def seenFlow (contexts : Entries (Entries Body)) : List FlowStep :=
  startFlowStep contexts :: contexts.flatMap seenSteps

theorem flatMap_faithfulGroups (contexts : Entries (Entries Body)) :
    (faithfulGroups contexts).flatMap stepsAt = contexts.flatMap seenSteps := by
  induction contexts with
  | nil => rfl
  | cons context rest ih =>
    rw [List.flatMap_cons, ← ih]
    by_cases hempty : context.2 = []
    · have hnone : seenSteps context = [] := by simp [seenSteps, hempty, Entries.keys]
      simp [faithfulGroups, hempty, hnone]
    · simp [faithfulGroups, hempty, stepsAt_context]

theorem flatMap_faithfulEntries (contexts : Entries (Entries Body)) :
    (faithfulEntries contexts).flatMap stepsAt = seenFlow contexts := by
  have hstart : stepsAt (startStep, .obj (startBody contexts)) = [startFlowStep contexts] := rfl
  rw [faithfulEntries, List.flatMap_cons, hstart, flatMap_faithfulGroups]
  rfl

/-- The checks see every step just where no step is named like the key of an action. -/
theorem seenFlow_eq_iff :
    seenFlow contexts = allSteps contexts ↔
      ∀ context ∈ contexts, "action" ∉ Entries.keys context.2 := by
  rw [seenFlow, allSteps, List.cons_inj_right]
  constructor
  · intro hall context hmem haction
    -- A context taken for a step has no context of its own; every step of a recording has one.
    have hseen : ⟨context.1, none, Entries.mapValues .obj
        (Entries.mapValues Body.ofRecord context.2)⟩ ∈ contexts.flatMap seenSteps :=
      List.mem_flatMap.2 ⟨context, hmem, by simp [seenSteps, haction]⟩
    rw [hall] at hseen
    obtain ⟨other, _, hmember⟩ := List.mem_flatMap.1 hseen
    obtain ⟨record, _, e⟩ := List.mem_map.1 hmember
    simp [memberStep] at e
  · intro hnone
    refine List.flatMap_congr fun context hmem => ?_
    rw [seenSteps, if_neg (hnone context hmem)]

/-! ## The start -/

theorem map_id_allSteps (contexts : Entries (Entries Body)) :
    (allSteps contexts).map FlowStep.id = startStep :: stepIds contexts := by
  rw [allSteps, List.map_cons, List.map_flatMap, stepIds]
  refine congrArg _ (List.flatMap_congr fun context _ => ?_)
  rw [Entries.keys, List.map_map, List.map_map]
  rfl

/-- A compound id is no text without a dot. -/
theorem compound_ne {text : String} (h : '.' ∉ text.toList) (context name : String) :
    context ++ "." ++ name ≠ text := by
  rintro rfl
  exact h (by simp)

theorem firstId_cases (contexts : Entries (Entries Body)) :
    firstId contexts = endStep ∨ firstId contexts ∈ stepIds contexts := by
  rw [firstId]
  cases stepIds contexts with
  | nil => exact .inl rfl
  | cons id rest => exact .inr (List.mem_cons_self ..)

theorem firstId_ne_empty (contexts : Entries (Entries Body)) : firstId contexts ≠ "" := by
  rcases firstId_cases contexts with hend | hmem
  · rw [hend]
    decide
  · obtain ⟨context, _, hname⟩ := List.mem_flatMap.1 hmem
    obtain ⟨name, _, hid⟩ := List.mem_map.1 hname
    rw [← hid]
    exact compound_ne (by decide) context.1 name

theorem field_startBody (contexts : Entries (Entries Body)) :
    Entries.field (startBody contexts) "next" = .str (firstId contexts) := by
  have hgiven : (Json.str (firstId contexts)).isGiven = true := by
    simp [Json.isGiven, firstId_ne_empty contexts]
  have hnext : Entries.get? (startBody contexts) "next" = some (.str (firstId contexts)) := by
    simp [startBody, freeBody, Step.start, Entries.get?, Entries.get?_append, get?_given,
      get?_given_of_ne, hgiven]
  rw [Entries.field, hnext, Option.getD_some]

/-- The start goes on to the first of all steps or to the end. -/
theorem start_resolves (contexts : Entries (Entries Body)) :
    linkResolves ((allSteps contexts).map FlowStep.id) none
      (Entries.field (startBody contexts) "next") = true := by
  rw [field_startBody, map_id_allSteps]
  rcases firstId_cases contexts with hend | hmem
  · simp [linkResolves, hend]
  · simp [linkResolves, hmem]

theorem eq_start_of_mem {step : FlowStep} (hmem : step ∈ allSteps contexts)
    (hid : step.id = startStep) : step = startFlowStep contexts := by
  rcases List.mem_cons.1 hmem with e | hmember
  · exact e
  · obtain ⟨context, _, hrecord⟩ := List.mem_flatMap.1 hmember
    obtain ⟨record, _, rfl⟩ := List.mem_map.1 hrecord
    exact absurd hid (compound_ne (by decide) context.1 record.1)

theorem start_not_dangling {v : Violation} (hv : v ∈ violationsOf (allSteps contexts))
    (hstep : v.step = startStep) (reference : String) :
    v.defect ≠ .danglingReference "next" reference := by
  intro hdangling
  rcases List.mem_append.1 hv with hsteps | hexits
  · obtain ⟨step, hmem, hfound⟩ := List.mem_flatMap.1 hsteps
    obtain ⟨hid, hdefect⟩ := mem_stepViolations hfound
    rw [eq_start_of_mem hmem (hid.symm.trans hstep), hdangling] at hdefect
    have hresolves := start_resolves contexts
    simp_all [startFlowStep]
  · unfold exitViolations at hexits
    split at hexits
    · simp_all
    · split at hexits <;> simp_all

/-- **The checks see every contextual step**, where no step of the recording has an empty name
and none is named `action`; the start is then not reported for where it goes on. A context with
a step of the name `action` is taken for one step. -/
theorem steps_of_contextual {document : Json} {tcode : String} {t : Transaction}
    (hformat : Format.detect document = .contextual) (hd : document.Distinct)
    (h : (Recording.ofDocument document tcode).normalize = .ok t) (created : Json) :
    ∃ contexts, HasContexts document contexts ∧
      ((∀ context ∈ contexts, "" ∉ Entries.keys context.2) →
        steps (assemble created t).document = .ok (seenFlow contexts) ∧
        (seenFlow contexts = allSteps contexts ↔
          ∀ context ∈ contexts, "action" ∉ Entries.keys context.2) ∧
        ((∀ context ∈ contexts, "action" ∉ Entries.keys context.2) →
          ∃ found, validate (assemble created t).document = .ok found ∧
            ∀ v ∈ found, v.step = startStep →
              ∀ reference, v.defect ≠ .danglingReference "next" reference)) := by
  obtain ⟨contexts, hcontexts, hnames, hentries⟩ := exists_contextualEntries hformat hd h created
  refine ⟨contexts, hcontexts, fun hnamed => ?_⟩
  rw [(contextualEntries_eq_iff hnames).2 hnamed] at hentries
  have hseen := steps_of_entries hentries
  rw [flatMap_faithfulEntries] at hseen
  refine ⟨hseen, seenFlow_eq_iff, fun hopen => ?_⟩
  rw [seenFlow_eq_iff.2 hopen] at hseen
  refine ⟨violationsOf (allSteps contexts), validate_of_steps hseen, ?_⟩
  exact fun v hv hstep reference => start_not_dangling hv hstep reference

theorem steps_of_contextual_paired :
    Format.detect (contextualDocument pairedContexts) = .contextual ∧
      (contextualDocument pairedContexts).Distinct ∧
      ∃ t, (Recording.ofDocument (contextualDocument pairedContexts) "zc").normalize = .ok t ∧
        steps (assemble .null t).document = .ok (allSteps pairedContexts) ∧
        (allSteps pairedContexts).map FlowStep.id =
          ["startTransaction", "order.fill", "order.end.order", "done.stop"] ∧
        ∃ found, validate (assemble .null t).document = .ok found ∧
          ∀ v ∈ found, v.step = startStep →
            ∀ reference, v.defect ≠ .danglingReference "next" reference := by
  obtain ⟨t, ht⟩ := normalize_paired
  have hcontexts : HasContexts (contextualDocument pairedContexts) pairedContexts := ⟨_, rfl, rfl⟩
  obtain ⟨contexts, hfound, hsteps⟩ := steps_of_contextual rfl distinct_paired ht .null
  cases hfound.unique hcontexts
  have hopen : ∀ context ∈ pairedContexts, "action" ∉ Entries.keys context.2 := by
    simp [pairedContexts, Entries.keys]
  obtain ⟨hseen, hall, hstart⟩ := hsteps (by simp [pairedContexts, Entries.keys])
  rw [hall.2 hopen] at hseen
  exact ⟨rfl, distinct_paired, t, ht, hseen, rfl, hstart hopen⟩

/-- A context with a step of the name that marks a step. -/
def markedContexts : Entries (Entries Body) :=
  [("ctx", [("fill", [("action", .str "set"), ("next", .str "action")]),
    ("action", [("action", .str "exit")])])]

/-- The context is taken for one step, and the start is reported for going on into it. -/
theorem steps_of_contextual_marked :
    Format.detect (contextualDocument markedContexts) = .contextual ∧
      (contextualDocument markedContexts).Distinct ∧
      HasContexts (contextualDocument markedContexts) markedContexts ∧
      (∀ context ∈ markedContexts, "" ∉ Entries.keys context.2) ∧
      ∃ t, (Recording.ofDocument (contextualDocument markedContexts) "zc").normalize = .ok t ∧
        steps (assemble .null t).document ≠ .ok (allSteps markedContexts) ∧
        (steps (assemble .null t).document).map (List.map FlowStep.id) =
          .ok ["startTransaction", "ctx"] ∧
        ∃ found, validate (assemble .null t).document = .ok found ∧
          ⟨startStep, .danglingReference "next" "ctx.fill"⟩ ∈ found := by
  have hd : (contextualDocument markedContexts).Distinct := by
    simp [contextualDocument, markedContexts, Json.Distinct, Json.DistinctFields, Entries.keys,
      Entries.mapValues]
  refine ⟨rfl, hd, ⟨_, rfl, rfl⟩, by simp [markedContexts, Entries.keys], _, rfl, ?_, rfl, _, rfl,
    List.mem_cons_self ..⟩
  intro hall
  have hlength := congrArg List.length (Except.ok.inj hall)
  exact absurd hlength (by decide)

end ReplayFlow.Flow
