import ReplayFlow.Proofs.Alias.Naming
import ReplayFlow.Proofs.Batch.Survival
import ReplayFlow.Proofs.Flow.Assembly

/-!
Flows of legacy recordings. Naming the steps of a chain changes nothing but
their names (`linked_nameSteps`), so the flow of a surviving legacy recording is
the chain of its groups of events (`assemble_legacy`).
-/

namespace ReplayFlow

open Alias Recording

/-! ## Named steps -/

namespace Alias.Naming

variable (naming : Naming)

theorem ids_nameSteps (steps : List Step) :
    (steps.map naming.nameStep).map Step.id = steps.map Step.id := by
  rw [List.map_map]
  exact List.map_congr_left fun step _ => id_nameStep naming step

theorem linked_nameSteps {steps : List Step} (h : Linked steps) :
    Linked (steps.map naming.nameStep) := by
  induction h with
  | @exit step hid haction hnext =>
    obtain ⟨name, e⟩ := nameStep_eq naming step
    rw [List.map_singleton, e]
    exact .exit hid haction hnext
  | @link step next rest hexit hcondition hnext hne _ ih =>
    obtain ⟨name, e⟩ := nameStep_eq naming step
    rw [List.map_cons, List.map_cons, e]
    refine .link hexit hcondition ?_ ?_ ih
    · rw [id_nameStep]
      exact hnext
    · rw [id_nameStep]
      exact hne

end Alias.Naming

/-! ## Surviving recordings -/

namespace Batch

variable {e : Entry} {t : Transaction}

/-- The flow of a legacy recording holds the named chain of its groups as it is. -/
theorem assemble_legacy (hok : e.transaction = .ok t)
    (hformat : Format.detect e.document = .legacy) (b : Batch) (date : Json) :
    StepMap.Chained (Flow.legacySteps (b.named t)).entries ∧
      ((b.named t).steps.map Step.id) =
        chainIds (Event.groupsOf (legacyEvents e.document)).length ∧
      ∃ more, (Flow.assemble date (b.named t)).document =
        Flow.documentOf (Flow.legacySteps (b.named t)) more := by
  obtain ⟨code, hsame⟩ := Entry.legacy_of_transaction hok hformat
  have hids : (b.named t).steps.map Step.id =
      chainIds (Event.groupsOf (legacyEvents e.document)).length := by
    rw [named, Naming.nameSteps, Naming.ids_nameSteps, hsame.steps, ids_legacyTransaction]
  have hlinked : Linked (b.named t).steps := by
    rw [named, Naming.nameSteps, hsame.steps]
    exact Naming.linked_nameSteps _ (linked_legacyTransaction _ _)
  have hlegacy : (b.named t).format = .legacy :=
    hsame.format.trans (Transaction.sameFrame_legacyTransaction _ _).format
  obtain ⟨hchained, hdocument⟩ := Flow.assembleLegacy_of_linked hlinked
    (hids ▸ nodup_chainIds _) date
  refine ⟨hchained, hids, ?_⟩
  rw [Flow.assemble, hlegacy]
  exact hdocument

end Batch

/-- **Legacy flows are linear chains.** A surviving legacy recording has the flow of its
groups of events, from the start to the only exit, and nothing is wrong with it. -/
theorem compileDocuments_chain {documents : OrderedMap Json} {document : String × Json}
    {t : Transaction}
    (h : Batch.Survives (documents.entries.map Entry.ofDocument) (Entry.ofDocument document) t)
    (hformat : Format.detect document.2 = .legacy) (options : CompileOptions) :
    let result := (compileDocuments options documents).1
    let count := (Event.groupsOf (legacyEvents document.2)).length
    ∃ flow, result.flows.get? t.tcode = some flow ∧ Flow.LinearChain flow (chainIds count) ∧
      Flow.validate flow = .ok [] ∧ result.violations.get? t.tcode = none := by
  have hok := Batch.transaction_of_survives h
  obtain ⟨hchained, hids, more, hdocument⟩ := Batch.assemble_legacy hok hformat
    (Batch.ofEntries (documents.entries.map Entry.ofDocument)) options.date
  have hnodup := nodup_chainIds (Event.groupsOf (legacyEvents document.2)).length
  have hvalid := Flow.validate_document hchained more
  have hchain := Flow.linearChain_document hchained more
  rw [Flow.keys_legacySteps (hids ▸ hnodup), hids] at hchain
  dsimp only
  rw [compileDocuments_eq]
  refine ⟨_, Batch.flow_of_survives h options, ?_, ?_, ?_⟩
  · rw [hdocument]
    exact hchain
  · rw [hdocument]
    exact hvalid
  · have hviolations := Batch.violations_of_survives h options
    rw [hdocument, Batch.violationsOf, hvalid] at hviolations
    exact hviolations

theorem compileDocuments_chain_create :
    ∃ t, Batch.Survives (Sample.documents.entries.map Entry.ofDocument)
        (Entry.ofDocument ("create.json", Sample.create)) t ∧
      Format.detect Sample.create = .legacy ∧
      let result := (compileDocuments ⟨"2024-01-01", .null, false, []⟩ Sample.documents).1
      let count := (Event.groupsOf (legacyEvents Sample.create)).length
      ∃ flow, result.flows.get? t.tcode = some flow ∧ Flow.LinearChain flow (chainIds count) ∧
        Flow.validate flow = .ok [] ∧ result.violations.get? t.tcode = none := by
  obtain ⟨t, hsurvives, _⟩ := Batch.survives_create
  have hformat : Format.detect Sample.create = .legacy := rfl
  exact ⟨t, hsurvives, hformat, compileDocuments_chain hsurvives hformat _⟩

end ReplayFlow
