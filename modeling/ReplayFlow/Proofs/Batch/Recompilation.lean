import ReplayFlow.Proofs.Batch.Legacy
import ReplayFlow.Proofs.Flow.Carried
import ReplayFlow.Proofs.Recording.Records

/-!
Flows compiled again. The flow of a recording that is not contextual is itself a
steps-only recording of canonical bodies (`Flow.Recompiles`); such a flow is
accepted under any source, and its steps come back as they are
(`compileDocuments_recompiles`).
-/

namespace ReplayFlow

open Alias Recording

namespace Flow

variable {t : Transaction} {flow : Json} {steps : StepMap}

/-- A flow of given steps that is read as a steps-only recording of canonical bodies. -/
structure Recompiles (flow : Json) (steps : StepMap) : Prop where
  detected : Format.detect flow = .stepsOnly
  entries : stepEntries? flow = some (Entries.mapValues .obj steps.entries)
  canonical : ∀ entry ∈ steps.entries, Body.Canonical entry.2

/-! ## Carried recordings -/

/-- The steps that are made of records. -/
def carriedSteps (records : Entries Body) : StepMap :=
  .ofList (records.map fun record => (record.1, carriedBody (carriedStep record.1 record.2)))

/-- The flow of carried steps holds nothing else, whatever names the steps were given. -/
theorem assemble_carried {records : Entries Body} (hformat : t.format = .stepsOnly)
    (hsteps : t.steps = records.map fun record => carriedStep record.1 record.2)
    (naming : Naming) (created : Json) :
    (assemble created (naming.nameSteps t)).document = documentOf (carriedSteps records) [] := by
  rw [assemble_nameSteps naming (by rw [hformat]; decide), assemble, hformat]
  simp only [assembleStepsOnly, hsteps, List.map_map]
  rfl

/-- Canonical bodies are carried over one by one. -/
theorem carriedSteps_of_canonical (h : ∀ entry ∈ steps.entries, Body.Canonical entry.2) :
    carriedSteps steps.entries = steps := by
  have hsame : (steps.entries.map fun entry =>
      (entry.1, carriedBody (carriedStep entry.1 entry.2))) = steps.entries := by
    conv_rhs => rw [← List.map_id steps.entries]
    refine List.map_congr_left fun entry hmem => ?_
    rw [carriedBody_of_canonical (h entry hmem)]
    rfl
  rw [carriedSteps, hsame, OrderedMap.ofList_entries steps.nodup]

theorem recompiles_carried (records : Entries Body) :
    Recompiles (documentOf (carriedSteps records) []) (carriedSteps records) := by
  refine ⟨rfl, stepEntries?_documentOf, fun entry hmem => ?_⟩
  obtain ⟨record, _, rfl⟩ := List.mem_map.1 (Entries.mem_of_mem_ofList hmem)
  exact canonical_carriedBody (action_carriedStep record.1 record.2) rfl

/-! ## Legacy recordings -/

theorem canonical_legacySteps (h : ∀ step ∈ t.steps, step.action ∈ Action.flowActions)
    (naming : Naming) :
    ∀ entry ∈ (legacySteps (naming.nameSteps t)).entries, Body.Canonical entry.2 := by
  intro entry hmem
  obtain ⟨named, hnamed, rfl⟩ := List.mem_map.1 (Entries.mem_of_mem_ofList hmem)
  obtain ⟨step, hstep, rfl⟩ := List.mem_map.1 hnamed
  obtain ⟨name, e⟩ := Naming.nameStep_eq naming step
  refine canonical_legacyBody ?_
  rw [e]
  exact h step hstep

end Flow

namespace Batch

variable {entries : List Entry} {e : Entry} {t : Transaction}

/-- The flow of a steps-only recording has nothing but the steps made of its records. -/
theorem exists_assemble_records (hok : e.transaction = .ok t)
    (hformat : Format.detect e.document = .stepsOnly) (b : Batch) (date : Json) :
    ∃ records, HasRecords e.document records ∧ (Flow.assemble date (b.named t)).document =
      Flow.documentOf (Flow.carriedSteps records) [] := by
  obtain ⟨u, hu, rfl⟩ := Entry.transaction_eq_ok_iff.1 hok
  obtain ⟨fields, records, hdocument, hfield⟩ := exists_records_of_normalize hformat hu
  obtain ⟨v, hv, _, hvformat, hvsteps⟩ := normalize_records (hdocument ▸ hformat) hfield e.tcode
  rw [hdocument, hv] at hu
  cases hu
  have hsame := Transaction.sameSteps_analyze u
  refine ⟨records, ⟨fields, hdocument, hfield⟩, ?_⟩
  rw [named, Flow.assemble_carried (hsame.format.trans hvformat) (hsame.steps.trans hvsteps)]

/-- The flow of a recording that is not contextual can be compiled again. -/
theorem exists_recompiles (hok : e.transaction = .ok t)
    (hformat : Format.detect e.document ≠ .contextual) (b : Batch) (date : Json) :
    ∃ steps, Flow.Recompiles (Flow.assemble date (b.named t)).document steps := by
  cases hshape : Format.detect e.document with
  | contextual => exact absurd hshape hformat
  | stepsOnly =>
    obtain ⟨records, _, hdocument⟩ := exists_assemble_records hok hshape b date
    refine ⟨Flow.carriedSteps records, ?_⟩
    rw [hdocument]
    exact Flow.recompiles_carried records
  | legacy =>
    obtain ⟨code, hsame⟩ := Entry.legacy_of_transaction hok hshape
    obtain ⟨_, _, more, hdocument⟩ := assemble_legacy hok hshape b date
    have hlegacy : (b.named t).format = .legacy :=
      hsame.format.trans (Transaction.sameFrame_legacyTransaction _ _).format
    refine ⟨Flow.legacySteps (b.named t), ?_, ?_, ?_⟩
    · rw [Flow.assemble, hlegacy]
      rfl
    · rw [hdocument]
      exact Flow.stepEntries?_documentOf
    · refine Flow.canonical_legacySteps ?_ _
      rw [hsame.steps]
      exact fun step hmem => action_legacyTransaction hmem

/-- A flow that can be compiled again is accepted under any source. -/
theorem transaction_of_recompiles {flow : Json} {steps : StepMap}
    (h : Flow.Recompiles flow steps) (source : String) :
    ∃ u, (Entry.ofDocument (source, flow)).transaction = .ok u ∧
      u.tcode = lowercase (tcodeOfSource source) ∧ u.format = .stepsOnly ∧
        u.steps = steps.entries.map fun entry => carriedStep entry.1 entry.2 := by
  obtain ⟨fields, rfl, hfield⟩ := Flow.stepEntries?_eq_some_iff.1 h.entries
  obtain ⟨u, hu, htcode, hformat, hsteps⟩ :=
    normalize_records h.detected hfield (tcodeOfSource source)
  have hsame := Transaction.sameSteps_analyze u
  exact ⟨u.analyze, Entry.transaction_eq_ok_iff.2 ⟨u, hu, rfl⟩, hsame.tcode.trans htcode,
    hsame.format.trans hformat, hsame.steps.trans hsteps⟩

end Batch

/-- **Recompiling a flow reproduces its steps.** The flow of a surviving recording that is not
contextual is a steps-only recording; it is accepted under any source, and wherever it survives
its flow has the same steps, in the same order and with the same fields. -/
theorem compileDocuments_recompiles {documents : OrderedMap Json} {document : String × Json}
    {t : Transaction}
    (h : Batch.Survives (documents.entries.map Entry.ofDocument) (Entry.ofDocument document) t)
    (hformat : Format.detect document.2 ≠ .contextual) (options : CompileOptions) :
    ∃ flow steps, (compileDocuments options documents).1.flows.get? t.tcode = some flow ∧
      Format.detect flow = .stepsOnly ∧ Flow.stepEntries? flow = some steps ∧
      ∀ source, ∃ u, (Entry.ofDocument (source, flow)).transaction = .ok u ∧
        u.tcode = lowercase (tcodeOfSource source) ∧
        ∀ (again : CompileOptions) (batch : OrderedMap Json),
          Batch.Survives (batch.entries.map Entry.ofDocument) (Entry.ofDocument (source, flow)) u →
          ∃ recompiled, (compileDocuments again batch).1.flows.get? u.tcode = some recompiled ∧
            Flow.stepEntries? recompiled = some steps := by
  obtain ⟨steps, hflow⟩ := Batch.exists_recompiles (Batch.transaction_of_survives h) hformat
    (Batch.ofEntries (documents.entries.map Entry.ofDocument)) options.date
  refine ⟨_, _, Batch.flow_of_survives h options, hflow.detected, hflow.entries, ?_⟩
  intro source
  obtain ⟨u, hu, htcode, huformat, husteps⟩ := Batch.transaction_of_recompiles hflow source
  refine ⟨u, hu, htcode, fun again batch hsurvives => ?_⟩
  refine ⟨_, Batch.flow_of_survives hsurvives again, ?_⟩
  rw [Batch.named, Flow.assemble_carried huformat husteps, Flow.stepEntries?_documentOf,
    Flow.carriedSteps_of_canonical hflow.canonical]

theorem compileDocuments_recompiles_create :
    ∃ t flow, Batch.Survives (Sample.documents.entries.map Entry.ofDocument)
        (Entry.ofDocument ("create.json", Sample.create)) t ∧
      Format.detect Sample.create ≠ .contextual ∧
      (compileDocuments ⟨"2024-01-01", .null, false, []⟩ Sample.documents).1.flows.get? t.tcode =
        some flow ∧
      ∃ u, Batch.Survives ((OrderedMap.singleton "again.json" flow).entries.map Entry.ofDocument)
          (Entry.ofDocument ("again.json", flow)) u ∧
        ∃ recompiled, (compileDocuments ⟨"2025-01-01", .null, false, []⟩
            (.singleton "again.json" flow)).1.flows.get? u.tcode = some recompiled ∧
          Flow.stepEntries? recompiled = Flow.stepEntries? flow := by
  obtain ⟨t, hsurvives, _⟩ := Batch.survives_create
  have hformat : Format.detect Sample.create ≠ .contextual := by decide
  obtain ⟨flow, steps, hflow, _, hsteps, hagain⟩ :=
    compileDocuments_recompiles hsurvives hformat ⟨"2024-01-01", .null, false, []⟩
  obtain ⟨u, hu, _, hrecompiled⟩ := hagain "again.json"
  have halone : Batch.Survives ((OrderedMap.singleton "again.json" flow).entries.map
      Entry.ofDocument) (Entry.ofDocument ("again.json", flow)) u := Batch.survives_alone hu
  refine ⟨t, flow, hsurvives, hformat, hflow, u, halone, ?_⟩
  rw [hsteps]
  exact hrecompiled _ _ halone

end ReplayFlow
