import ReplayFlow.Batch.Output
import ReplayFlow.Proofs.Batch.Accounting
import ReplayFlow.Proofs.Recording.Registry

/-!
What is written of a batch. The names of flow files come from transaction codes,
and share one space with the names of the alias table and the main flow. Codes
are in small letters, so no flow can meet the main flow, but the flow of a
transaction `aliases` has the name of the alias table, which is written after it
and takes its place (`writeTo_keeps_flows`, `writeTo_loses_flow`).
-/

namespace ReplayFlow

/-! ## Names -/

theorem flowFile_inj (tcode other : String) : flowFile tcode = flowFile other ↔ tcode = other := by
  rw [flowFile, flowFile, String.append_left_inj]

theorem flowFile_eq_aliasesFile_iff {tcode : String} :
    flowFile tcode = aliasesFile ↔ tcode = "aliases" :=
  flowFile_inj tcode "aliases"

/-- The name of the main flow has a capital letter, which no transaction code has. -/
theorem flowFile_ne_mainFlowFile {tcode : String} (h : lowercase tcode = tcode) :
    flowFile tcode ≠ mainFlowFile := by
  intro e
  have htcode : tcode = "mainFlow" := (flowFile_inj tcode "mainFlow").1 e
  rw [htcode] at h
  exact absurd h (by decide)

/-! ## Memory -/

namespace Storage

theorem writeAllTo_append (memory : OrderedMap Json) (before after : List Output) :
    writeAllTo memory (before ++ after) = writeAllTo (writeAllTo memory before) after :=
  List.foldl_append

theorem entries_writeAllTo (memory : OrderedMap Json) (outputs : List Output) :
    (writeAllTo memory outputs).entries =
      Entries.insertAll memory.entries (outputs.map fun output => (output.name, output.document)) := by
  induction outputs generalizing memory with
  | nil => rfl
  | cons output rest ih => exact ih _

theorem keys_writeAllTo (outputs : List Output) :
    (writeAllTo ∅ outputs).keys = (outputs.map Output.name).eraseDups := by
  have hnames : Entries.keys (outputs.map fun output => (output.name, output.document)) =
      outputs.map Output.name := by
    simp only [Entries.keys, List.map_map, Function.comp_def]
  rw [OrderedMap.keys, entries_writeAllTo, ← hnames]
  exact Entries.keys_ofList _

end Storage

namespace CompileResult

variable {r : CompileResult} {tcode : String} {flow : Json}

/-- The documents of the flows alone. -/
def flowOutputs (r : CompileResult) : List Output :=
  r.flows.entries.map fun flow => ⟨flowFile flow.1, flow.2⟩

theorem writeTo_eq (r : CompileResult) :
    r.writeTo ∅ =
      let memory := (Storage.writeAllTo ∅ r.flowOutputs).insert aliasesFile r.table.stored.toJson
      match r.mainFlow with
      | some document => memory.insert mainFlowFile document
      | none => memory := by
  rw [writeTo, outputs, Storage.writeAllTo_append, Storage.writeAllTo_append]
  cases r.mainFlow <;> rfl

theorem nodup_flowFiles (r : CompileResult) : (r.flows.keys.map flowFile).Nodup :=
  List.Pairwise.map flowFile (fun _ _ hne e => hne ((flowFile_inj _ _).1 e)) r.flows.nodup

theorem get?_flowOutputs (r : CompileResult) (tcode : String) :
    (Storage.writeAllTo ∅ r.flowOutputs).get? (flowFile tcode) = r.flows.get? tcode := by
  have hentries : (Storage.writeAllTo ∅ r.flowOutputs).entries =
      r.flows.entries.map fun flow => (flowFile flow.1, flow.2) := by
    rw [Storage.entries_writeAllTo, flowOutputs, List.map_map]
    refine Entries.ofList_of_nodup ?_
    have hkeys : Entries.keys (r.flows.entries.map fun flow => (flowFile flow.1, flow.2)) =
        r.flows.keys.map flowFile := by
      simp only [OrderedMap.keys, Entries.keys, List.map_map, Function.comp_def]
    exact hkeys ▸ nodup_flowFiles r
  rw [OrderedMap.get?, hentries]
  exact Entries.get?_map_key flowFile_inj r.flows.entries tcode

theorem written_eq (r : CompileResult) :
    r.written = r.flows.keys.map flowFile ++ aliasesFile ::
      (r.mainFlow.map fun _ => mainFlowFile).toList := by
  have hflows : r.flowOutputs.map Output.name = r.flows.keys.map flowFile := by
    simp only [flowOutputs, OrderedMap.keys, Entries.keys, List.map_map, Function.comp_def]
  rw [written, outputs, List.map_append, List.map_append, ← flowOutputs, hflows,
    List.append_assoc]
  cases r.mainFlow <;> rfl

/-- The names are told apart by what they name, but for one transaction code. -/
theorem nodup_written_iff (hsmall : ∀ tcode ∈ r.flows.keys, lowercase tcode = tcode) :
    r.written.Nodup ↔ "aliases" ∉ r.flows.keys := by
  have hfixed : (aliasesFile :: (r.mainFlow.map fun _ => mainFlowFile).toList).Nodup := by
    cases r.mainFlow with
    | none => decide
    | some _ => exact (by decide : [aliasesFile, mainFlowFile].Nodup)
  have hmeets : (∀ name ∈ r.flows.keys.map flowFile,
      ∀ fixed ∈ aliasesFile :: (r.mainFlow.map fun _ => mainFlowFile).toList, name ≠ fixed) ↔
        "aliases" ∉ r.flows.keys := by
    constructor
    · intro hapart hmem
      exact hapart _ (List.mem_map_of_mem hmem) _ (List.mem_cons_self ..) rfl
    · intro hnone name hname fixed hmem e
      obtain ⟨tcode, htcode, rfl⟩ := List.mem_map.1 hname
      rcases List.mem_cons.1 hmem with rfl | hmain
      · exact hnone (flowFile_eq_aliasesFile_iff.1 e ▸ htcode)
      · rw [Option.mem_toList, Option.map_eq_some_iff] at hmain
        obtain ⟨_, _, rfl⟩ := hmain
        exact flowFile_ne_mainFlowFile (hsmall tcode htcode) e
  rw [written_eq, List.nodup_append, hmeets]
  exact ⟨fun h => h.2.2, fun h => ⟨nodup_flowFiles r, hfixed, h⟩⟩

theorem get?_writeTo_aliasesFile (r : CompileResult) :
    (r.writeTo ∅).get? aliasesFile = some r.table.stored.toJson := by
  have hne : mainFlowFile ≠ aliasesFile := by decide
  rw [writeTo_eq]
  cases r.mainFlow <;> simp [OrderedMap.get?_insert, hne]

theorem get?_writeTo_mainFlowFile {document : Json} (h : r.mainFlow = some document) :
    (r.writeTo ∅).get? mainFlowFile = some document := by
  rw [writeTo_eq, h]
  simp [OrderedMap.get?_insert]

theorem get?_writeTo_flowFile (hsmall : lowercase tcode = tcode) (hne : tcode ≠ "aliases") :
    (r.writeTo ∅).get? (flowFile tcode) = r.flows.get? tcode := by
  have hmain : mainFlowFile ≠ flowFile tcode := (flowFile_ne_mainFlowFile hsmall).symm
  have haliases : aliasesFile ≠ flowFile tcode := fun e => hne (flowFile_eq_aliasesFile_iff.1 e.symm)
  rw [← get?_flowOutputs, writeTo_eq]
  cases r.mainFlow <;> simp [OrderedMap.get?_insert, hmain, haliases]

end CompileResult

/-! ## Compiled batches -/

section

variable {options : CompileOptions} {documents : OrderedMap Json}

/-- The flows of a compilation have codes in small letters. -/
theorem small_of_mem_flows {tcode : String}
    (h : tcode ∈ (compileDocuments options documents).1.flows.keys) : lowercase tcode = tcode := by
  obtain ⟨flow, hflow⟩ := OrderedMap.exists_get?_of_mem_keys h
  obtain ⟨_, _, t, hsurvives, rfl, _⟩ := owner_of_flow hflow
  exact Entry.small_of_transaction (Batch.transaction_of_survives hsurvives)

/-- A flow opens with its steps, and an alias table with its heads. -/
theorem assemble_ne_table (created : Json) (t : Transaction) (table : AliasTable Json) :
    (Flow.assemble created t).document ≠ table.toJson := by
  have hopens : ∃ steps more, (Flow.assemble created t).document = .obj (("steps", steps) :: more) := by
    unfold Flow.assemble
    cases t.format <;> exact ⟨_, _, rfl⟩
  obtain ⟨steps, more, heq⟩ := hopens
  intro e
  rw [heq, AliasTable.toJson, AliasTable.fields, List.cons_append, Json.obj.injEq,
    List.cons.injEq, Prod.mk.injEq] at e
  exact absurd e.1.1 (by decide)

/-- The flow of a transaction `aliases` is not what its file holds. -/
theorem get?_writeTo_aliases {flow : Json}
    (h : (compileDocuments options documents).1.flows.get? "aliases" = some flow) :
    ((compileDocuments options documents).1.writeTo ∅).get? (flowFile "aliases") ≠ some flow := by
  obtain ⟨_, _, t, _, _, rfl⟩ := owner_of_flow h
  have htable := (compileDocuments options documents).1.get?_writeTo_aliasesFile
  intro hstored
  rw [show flowFile "aliases" = aliasesFile from rfl, htable, Option.some.injEq] at hstored
  exact assemble_ne_table _ _ _ hstored.symm

end

/-- **Memory keeps every flow but one.** After a compilation is written, the names are distinct
unless a transaction is called `aliases`; every other flow is stored under its name, the alias
table and the main flow under theirs, and nothing else is stored. -/
theorem writeTo_keeps_flows (options : CompileOptions) (documents : OrderedMap Json) :
    let r := (compileDocuments options documents).1
    let memory := r.writeTo ∅
    (r.written.Nodup ↔ "aliases" ∉ r.flows.keys) ∧
      (∀ tcode flow, r.flows.get? tcode = some flow →
        (memory.get? (flowFile tcode) = some flow ↔ tcode ≠ "aliases")) ∧
      memory.get? aliasesFile = some r.table.stored.toJson ∧
      (∀ document, r.mainFlow = some document → memory.get? mainFlowFile = some document) ∧
      memory.keys = r.written.eraseDups := by
  intro r memory
  refine ⟨r.nodup_written_iff fun _ h => small_of_mem_flows h, ?_, r.get?_writeTo_aliasesFile,
    fun _ h => r.get?_writeTo_mainFlowFile h, Storage.keys_writeAllTo r.outputs⟩
  intro tcode flow hflow
  constructor
  · rintro hstored rfl
    exact get?_writeTo_aliases hflow hstored
  · intro hne
    have hsmall := small_of_mem_flows (OrderedMap.mem_keys_of_get? hflow)
    exact (r.get?_writeTo_flowFile hsmall hne).trans hflow

namespace Sample

/-- A recording whose transaction is called as the file of the alias table is. -/
def shadowing : OrderedMap Json :=
  .ofList [("rec.json", .obj [("Tcode", .str "ALIASES"), ("Steps", .arr [])])]

end Sample

/-- The only flow of a batch is lost, and its name is reported twice. -/
theorem writeTo_loses_flow :
    let r := (compileDocuments ⟨"2024-01-01", .null, false, []⟩ Sample.shadowing).1
    r.flows.keys = ["aliases"] ∧ r.written = ["aliases.json", "aliases.json"] ∧
      (r.writeTo ∅).keys = ["aliases.json"] ∧
      (r.writeTo ∅).get? "aliases.json" ≠ r.flows.get? "aliases" := by
  intro r
  have hkeys : r.flows.keys = ["aliases"] := by rfl
  refine ⟨hkeys, by rfl, by rfl, ?_⟩
  have hmem : "aliases" ∈ r.flows.keys := hkeys ▸ List.mem_singleton_self _
  obtain ⟨flow, hflow⟩ := OrderedMap.exists_get?_of_mem_keys hmem
  rw [hflow]
  exact get?_writeTo_aliases hflow

end ReplayFlow
