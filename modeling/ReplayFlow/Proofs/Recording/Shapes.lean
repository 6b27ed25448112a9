import ReplayFlow.Flow.Body
import ReplayFlow.Proofs.Data.OrderedMap
import ReplayFlow.Proofs.Text.Case
import ReplayFlow.Proofs.Transaction
import ReplayFlow.Recording.Normalize

/-!
What an accepted recording is, for each shape: the chain of its groups of events, or
the steps of its records taken in one by one from nothing (`normalize_cases`). What
holds of every transaction that is read follows from these two cases: it is read
under a code in small letters, whether its document gives the code or its source
does (`small_normalize`), and it has no areas before its analysis (`areas_normalize`).
-/

namespace ReplayFlow

namespace Transaction

variable {t u v : Transaction}

/-- Appends steps that have no names of their own for their controls. -/
def addSteps (t : Transaction) (steps : List Step) : Transaction :=
  steps.foldl (fun acc step => acc.addStep step none) t

theorem addSteps_append (t : Transaction) (steps more : List Step) :
    t.addSteps (steps ++ more) = (t.addSteps steps).addSteps more :=
  List.foldl_append ..

/-! ## What steps and kinds leave alone -/

structure SameFrame (t u : Transaction) : Prop where
  tcode : u.tcode = t.tcode
  format : u.format = t.format
  areas : u.areas = t.areas

namespace SameFrame

theorem refl (t : Transaction) : SameFrame t t := ⟨rfl, rfl, rfl⟩

theorem trans (h : SameFrame t u) (h' : SameFrame u v) : SameFrame t v :=
  ⟨h'.tcode.trans h.tcode, h'.format.trans h.format, h'.areas.trans h.areas⟩

theorem foldl {α : Type} (f : Transaction → α → Transaction) (hf : ∀ t a, SameFrame t (f t a))
    (items : List α) (t : Transaction) : SameFrame t (items.foldl f t) := by
  induction items generalizing t with
  | nil => exact refl t
  | cons item rest ih => exact (hf t item).trans (ih _)

end SameFrame

theorem sameFrame_addStep (t : Transaction) (step : Step) (name : Option String) :
    SameFrame t (t.addStep step name) := by
  unfold addStep
  cases step.control? <;> exact ⟨rfl, rfl, rfl⟩

theorem sameFrame_addSteps (t : Transaction) (steps : List Step) :
    SameFrame t (t.addSteps steps) :=
  SameFrame.foldl _ (fun t step => sameFrame_addStep t step none) steps t

theorem sameFrame_addKinds (t : Transaction) (kinds : List (Option String)) :
    SameFrame t (kinds.foldl addKind t) := by
  rw [addKinds_eq]
  exact ⟨rfl, rfl, rfl⟩

theorem sameFrame_addLegacySteps (t : Transaction) (index : Nat) (groups : List Event) :
    SameFrame t (Recording.addLegacySteps t index groups) := by
  induction groups generalizing t index with
  | nil => exact .refl t
  | cons e rest ih => exact (sameFrame_addStep t _ _).trans (ih _ _)

theorem sameFrame_legacyTransaction (tcode : String) (events : List Json) :
    SameFrame { tcode, format := .legacy } (Recording.legacyTransaction tcode events) := by
  unfold Recording.legacyTransaction
  refine .trans ?_ (sameFrame_addStep _ _ _)
  refine .trans ?_ (sameFrame_addLegacySteps _ _ _)
  refine .trans ?_ (sameFrame_addStep _ _ _)
  exact sameFrame_addKinds _ (events.map Recording.eventKind?)

end Transaction

namespace Recording

variable {t u : Transaction} {document : Json} {tcode : String}
  {make : String → Entries Json → Step}

/-! ## Events -/

/-- The events of a document. -/
def legacyEvents (document : Json) : List Json :=
  match document with
  | .obj fields =>
    match (Entries.field fields "Steps").orElse (.arr []) with
    | .arr events => events
    | _ => []
  | _ => []

theorem normalizeLegacy_eq (h : normalizeLegacy document tcode = .ok u) :
    ∃ code, u = legacyTransaction (lowercase code) (legacyEvents document) := by
  unfold normalizeLegacy at h
  split at h
  · dsimp only at h
    split at h
    · rename_i fields events hevents
      cases hcheck : checkEvents _ 1 events with
      | error fault =>
        rw [hcheck] at h
        cases h
      | ok _ =>
        rw [hcheck] at h
        cases h
        exact ⟨_, by rw [legacyEvents, hevents]⟩
    · cases h
  · cases h

/-! ## Records -/

/-- Only objects are taken in. -/
theorem exists_records {entries : Entries Json} (h : addRecords make t entries = .ok u) :
    ∃ records : Entries Body, entries = Entries.mapValues .obj records ∧
      u = t.addSteps (records.map fun record => make record.1 record.2) := by
  fun_induction addRecords make t entries with
  | case1 t =>
    cases h
    exact ⟨[], rfl, rfl⟩
  | case2 t name record rest ih =>
    obtain ⟨records, rfl, hu⟩ := ih h
    exact ⟨(name, record) :: records, rfl, hu⟩
  | case3 => cases h

theorem normalizeStepsOnly_eq (h : normalizeStepsOnly document tcode = .ok u) :
    ∃ records : Entries Body, u =
      ({ tcode := lowercase tcode, format := .stepsOnly } : Transaction).addSteps
        (records.map fun record => carriedStep record.1 record.2) := by
  unfold normalizeStepsOnly at h
  split at h
  · split at h
    · obtain ⟨records, _, rfl⟩ := exists_records h
      exact ⟨records, rfl⟩
    · cases h
  · cases h

/-! ## Contexts -/

/-- The steps of contexts, in order. -/
def contextSteps (contexts : Entries (Entries Body)) : List Step :=
  contexts.flatMap fun context =>
    context.2.map fun record => contextStep context.1 record.1 record.2

theorem exists_contexts {entries : Entries (Entries Json)} (h : addContexts t entries = .ok u) :
    ∃ contexts : Entries (Entries Body),
      entries = Entries.mapValues (Entries.mapValues .obj) contexts ∧
        u = t.addSteps (contextSteps contexts) := by
  induction entries generalizing t with
  | nil =>
    cases h
    exact ⟨[], rfl, rfl⟩
  | cons entry rest ih =>
    obtain ⟨context, records⟩ := entry
    simp only [addContexts] at h
    cases hadd : addRecords (contextStep context) t records with
    | error fault =>
      rw [hadd] at h
      cases h
    | ok v =>
      rw [hadd] at h
      obtain ⟨records, rfl, rfl⟩ := exists_records hadd
      obtain ⟨contexts, rfl, rfl⟩ := ih h
      refine ⟨(context, records) :: contexts, rfl, ?_⟩
      rw [← Transaction.addSteps_append]
      rfl

theorem normalizeContextual_eq (h : normalizeContextual document tcode = .ok u) :
    ∃ code header targetContext first, ∃ contexts : Entries (Entries Body), u =
      ({ tcode := lowercase code, format := .contextual, header, targetContext } :
        Transaction).addSteps (Step.start first :: contextSteps contexts) := by
  unfold normalizeContextual at h
  split at h
  · split at h
    · dsimp only at h
      split at h
      · split at h
        · split at h
          · cases h
          · obtain ⟨contexts, _, rfl⟩ := exists_contexts h
            exact ⟨_, _, _, _, contexts, rfl⟩
        · cases h
      · cases h
    · cases h
  · cases h

/-! ## All shapes -/

/-- **An accepted recording** is the chain of its groups, or takes in its steps one by one from
nothing, none of them with a name; and its code is in small letters. -/
theorem normalize_cases {recording : Recording} (h : recording.normalize = .ok t) :
    (∃ code, t = legacyTransaction (lowercase code) (legacyEvents recording.document)) ∨
      ∃ code format header targetContext, ∃ steps : List Step,
        (∀ step ∈ steps, step.aliasName = none) ∧
          t = ({ tcode := lowercase code, format, header, targetContext } :
            Transaction).addSteps steps := by
  unfold normalize at h
  split at h
  · obtain ⟨code, header, targetContext, first, contexts, rfl⟩ := normalizeContextual_eq h
    refine .inr ⟨code, .contextual, header, targetContext, _, ?_, rfl⟩
    refine List.forall_mem_cons.2 ⟨rfl, fun step hstep => ?_⟩
    obtain ⟨context, _, hstep⟩ := List.mem_flatMap.1 hstep
    obtain ⟨record, _, rfl⟩ := List.mem_map.1 hstep
    rfl
  · obtain ⟨records, rfl⟩ := normalizeStepsOnly_eq h
    refine .inr ⟨recording.tcode, .stepsOnly, [], [], _, fun step hstep => ?_, rfl⟩
    obtain ⟨record, _, rfl⟩ := List.mem_map.1 hstep
    rfl
  · exact .inl (normalizeLegacy_eq h)

/-- **A recording is read under a code in small letters.** -/
theorem small_normalize {recording : Recording} (h : recording.normalize = .ok t) :
    lowercase t.tcode = t.tcode := by
  rcases normalize_cases h with ⟨code, rfl⟩ | ⟨_, _, _, _, steps, _, rfl⟩
  · rw [(Transaction.sameFrame_legacyTransaction _ _).tcode, lowercase_lowercase]
  · rw [(Transaction.sameFrame_addSteps _ _).tcode, lowercase_lowercase]

/-- An accepted recording has no areas yet. -/
theorem areas_normalize {recording : Recording} (h : recording.normalize = .ok t) :
    t.areas = [] := by
  rcases normalize_cases h with ⟨code, rfl⟩ | ⟨_, _, _, _, steps, _, rfl⟩
  · exact (Transaction.sameFrame_legacyTransaction _ _).areas
  · exact (Transaction.sameFrame_addSteps _ _).areas

end Recording

end ReplayFlow
