import ReplayFlow.Proofs.Alias.Generation
import ReplayFlow.Proofs.Batch.Survival
import ReplayFlow.Proofs.Recording.Registry

/-!
A flow does not depend on the rest of its batch. The heads of the batch decide
how paths are written in the alias table, but not which names a transaction
gives to its controls (`named_eq_plain`), and a flow has only the names.
-/

namespace ReplayFlow

open Alias

namespace Batch

/-- The names on the steps of a transaction are those it would have without heads. -/
theorem named_eq_plain {e : Entry} {t : Transaction} (h : e.transaction = .ok t) (b : Batch) :
    b.named t = (Naming.ofTransaction ∅ t).nameSteps t := by
  have hwritten := Naming.ofTransaction_written (wordKeys_chooseHeads b.transactions.values)
    (t := t) fun path hpath => Entry.isRooted_of_transaction h hpath
  rw [named, hwritten]
  rfl

/-- What the result holds for a surviving recording is made from its transaction alone. -/
theorem result_of_survives {entries : List Entry} {e : Entry} {t : Transaction}
    (h : Survives entries e t) (options : CompileOptions) :
    let result := ((ofEntries entries).assemble options).result
    let flow := (Flow.assemble options.date ((Naming.ofTransaction ∅ t).nameSteps t)).document
    result.flows.get? t.tcode = some flow ∧
      result.violations.get? t.tcode =
        (some (violationsOf flow)).filter fun found => !found.isEmpty := by
  dsimp only
  rw [flow_of_survives h, violations_of_survives h, named_eq_plain (transaction_of_survives h)]
  exact ⟨rfl, rfl⟩

end Batch

/-- A surviving recording has the flow and the violations that it has when it is
compiled alone with the same date, whatever else is in the batch. -/
theorem compileDocuments_alone {documents : OrderedMap Json} {document : String × Json}
    {t : Transaction}
    (h : Batch.Survives (documents.entries.map Entry.ofDocument) (Entry.ofDocument document) t)
    {options alone : CompileOptions} (hdate : alone.date = options.date) :
    let batch := (compileDocuments options documents).1
    let single := (compileDocuments alone (.singleton document.1 document.2)).1
    (batch.flows.get? t.tcode).isSome ∧
      batch.flows.get? t.tcode = single.flows.get? t.tcode ∧
      batch.violations.get? t.tcode = single.violations.get? t.tcode := by
  have halone := Batch.survives_alone (Batch.transaction_of_survives h)
  obtain ⟨hflow, hviolations⟩ := Batch.result_of_survives h options
  obtain ⟨hflow', hviolations'⟩ := Batch.result_of_survives halone alone
  have hsingle : (compileDocuments alone (.singleton document.1 document.2)).1 =
    ((Batch.ofEntries [Entry.ofDocument document]).assemble alone).result := rfl
  rw [hdate] at hflow' hviolations'
  dsimp only
  rw [hsingle, compileDocuments_eq, hflow, hflow', hviolations, hviolations']
  exact ⟨rfl, rfl, rfl⟩

theorem compileDocuments_alone_create :
    ∃ t, Batch.Survives (Sample.documents.entries.map Entry.ofDocument)
        (Entry.ofDocument ("create.json", Sample.create)) t ∧
      let batch := (compileDocuments ⟨"2024-01-01", .null, false, []⟩ Sample.documents).1
      let single := (compileDocuments ⟨"2024-06-30", .str "2024-01-01", true, []⟩
        (.singleton "create.json" Sample.create)).1
      (batch.flows.get? t.tcode).isSome ∧
        batch.flows.get? t.tcode = single.flows.get? t.tcode ∧
        batch.violations.get? t.tcode = single.violations.get? t.tcode := by
  obtain ⟨t, hsurvives, _⟩ := Batch.survives_create
  exact ⟨t, hsurvives, compileDocuments_alone hsurvives rfl⟩

end ReplayFlow
