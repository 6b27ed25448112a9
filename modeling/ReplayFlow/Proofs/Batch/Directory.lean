import ReplayFlow.Proofs.Batch.Output
import ReplayFlow.Proofs.Storage.Sink

/-!
A batch written into a directory. Each flow goes to the place that its file name
leads to, and a transaction code may have slashes. The write succeeds exactly if
all these places lie right in the directory, and else stops at the first that
does not (`writeInto_directory`): one code like `sapapo/x` keeps every flow after
it and the alias table from being written (`writeInto_stops`).
-/

namespace ReplayFlow

open Storage (slot? filesAfter documentBytes)

variable {directory : List String} {tcode : String}

/-! ## Slots of flow files -/

theorem isName_flowFile (hnull : Path.hasNull tcode = false) (hplain : '/' ∉ tcode.toList) :
    Path.IsName (flowFile tcode) := by
  have htext : (flowFile tcode).toList = tcode.toList ++ ".json".toList := by simp [flowFile]
  have hlong : 5 ≤ (flowFile tcode).toList.length := by simp [htext]
  have hshorter (c : String) (hc : c.toList.length < 5) : flowFile tcode ≠ c := by
    rintro rfl
    omega
  refine ⟨hshorter "" (by decide), hshorter "." (by decide), hshorter ".." (by decide), ?_, ?_⟩
  · rw [htext, List.mem_append, not_or]
    exact ⟨hplain, by decide⟩
  · rw [htext, List.mem_append, not_or]
    exact ⟨Path.hasNull_eq_false_iff.1 hnull, by decide⟩

/-- The last component of a flow file is a name, whatever comes before it. -/
theorem exists_components_flowFile (hnull : Path.hasNull tcode = false) :
    ∃ front name, Path.components (flowFile tcode) = front ++ [name] ∧ Path.IsName name := by
  by_cases hplain : '/' ∈ tcode.toList
  · -- cut at the last slash: what follows it has none and ends the last component
    obtain ⟨after, before, hcut, hlast⟩ :=
      List.eq_append_cons_of_mem (List.mem_reverse.2 hplain)
    have htcode : tcode.toList = before.reverse ++ '/' :: after.reverse := by
      have := congrArg List.reverse hcut
      simpa using this
    have hwhole : flowFile tcode =
        String.ofList before.reverse ++ "/" ++ flowFile (String.ofList after.reverse) := by
      rw [← String.toList_inj]
      simp [flowFile, htcode]
    have hafter : Path.hasNull (String.ofList after.reverse) = false := by
      rw [Path.hasNull_eq_false_iff, htcode] at hnull
      rw [Path.hasNull_eq_false_iff, String.toList_ofList]
      exact fun hm => hnull (List.mem_append_right _ (List.mem_cons_of_mem _ hm))
    have hname := isName_flowFile hafter (by simpa using hlast)
    exact ⟨_, _, by rw [hwhole, Path.components_append, hname.components_eq], hname⟩
  · have hname := isName_flowFile hnull hplain
    exact ⟨[], _, hname.components_eq, hname⟩

theorem isSome_slot?_flowFile_iff (hnull : Path.hasNull tcode = false)
    (hshort : FileTree.isTooLong (flowFile tcode) = false) :
    (slot? directory (flowFile tcode)).isSome ↔
      ∃ file, Path.resolve directory (flowFile tcode) = directory ++ [file] := by
  obtain ⟨front, name, hcomponents, hname⟩ := exists_components_flowFile hnull
  have hplace : ∃ place, Path.resolve directory (flowFile tcode) = place ++ [name] := by
    rw [Path.resolve, Path.seenFrom, hcomponents]
    split
    · exact ⟨_, Path.normalize_concat hname.ne_points front⟩
    · exact ⟨_, by rw [← List.append_assoc, Path.normalize_concat hname.ne_points]⟩
  have hsmall : FileTree.isTooLong name = false := by
    have hmem : name ∈ Path.components (flowFile tcode) := by simp [hcomponents]
    exact FileTree.isTooLong_of_infix (Path.infix_of_mem_components hmem) hshort
  constructor
  · intro hsome
    obtain ⟨file, hfile⟩ := Option.isSome_iff_exists.1 hsome
    exact ⟨file, (Storage.slot?_eq_some_iff.1 hfile).2.1⟩
  · rintro ⟨file, hfile⟩
    obtain ⟨place, hends⟩ := hplace
    have hsame : name = file := by
      have := hends.symm.trans hfile
      exact (List.append_inj' this rfl).2 |> List.singleton_inj.1
    rw [Storage.slot?_eq_some_iff.2 ⟨by simp [flowFile, Path.hasNull_append, hnull]; decide, hfile,
      hsame ▸ hsmall⟩]
    rfl

/-! ## Results -/

namespace CompileResult

variable {r : CompileResult} {t : FileTree} {flow : Json}

/-- The names that are not of flows are their own slots. -/
theorem slot?_fixed (h : ∀ c ∈ directory, Path.IsName c) :
    slot? directory aliasesFile = some aliasesFile ∧
      slot? directory mainFlowFile = some mainFlowFile :=
  ⟨Storage.slot?_of_isName h (by decide) (by decide),
    Storage.slot?_of_isName h (by decide) (by decide)⟩

theorem forall_outputs_iff (r : CompileResult) (p : String → Prop) :
    (∀ output ∈ r.outputs, p output.name) ↔
      (∀ tcode ∈ r.flows.keys, p (flowFile tcode)) ∧ p aliasesFile ∧
        (r.mainFlow.isSome → p mainFlowFile) := by
  have hnames : (∀ output ∈ r.outputs, p output.name) ↔ ∀ name ∈ r.written, p name := by
    rw [written, List.forall_mem_map]
  rw [hnames, written_eq]
  cases r.mainFlow <;> simp [or_imp, forall_and]

theorem writeInto_holds (r : CompileResult) (h : t.Holds directory ∅) :
    (r.writeInto t directory).1.Holds directory (filesAfter directory ∅ r.outputs) := by
  have htree : (r.writeInto t directory).1 = (Storage.writeAllInto t directory r.outputs).1 := by
    rw [writeInto]
    split <;> simp_all
  exact htree ▸ (Storage.writeAllInto_holds h r.outputs).1

/-- Only a flow can keep a result from being written. -/
theorem writeInto_isOk_iff (r : CompileResult) (h : t.Holds directory ∅) :
    (r.writeInto t directory).2 = .ok r.written ↔
      ∀ tcode ∈ r.flows.keys, (slot? directory (flowFile tcode)).isSome := by
  have hrun : (r.writeInto t directory).2 = .ok r.written ↔
      (Storage.writeAllInto t directory r.outputs).2 = .ok () := by
    rw [writeInto]
    split <;> simp_all
  obtain ⟨haliases, hmain⟩ := slot?_fixed h.isName
  rw [hrun, (Storage.writeAllInto_holds h r.outputs).2,
    r.forall_outputs_iff fun name => (slot? directory name).isSome]
  simp [haliases, hmain]

/-- When the flows have slots, the alias table is written after them and stays. -/
theorem get?_filesAfter_aliasesFile (h : ∀ c ∈ directory, Path.IsName c)
    (hslots : ∀ tcode ∈ r.flows.keys, (slot? directory (flowFile tcode)).isSome) :
    (filesAfter directory ∅ r.outputs).get? aliasesFile =
      some (documentBytes r.table.stored.toJson) := by
  have hflows : ∀ output ∈ r.flowOutputs, (slot? directory output.name).isSome := by
    intro output houtput
    obtain ⟨entry, hentry, rfl⟩ := List.mem_map.1 houtput
    exact hslots entry.1 (List.mem_map_of_mem hentry)
  have hne : mainFlowFile ≠ aliasesFile := by decide
  rw [outputs, ← flowOutputs, List.append_assoc, Storage.filesAfter_append ∅ hflows]
  cases r.mainFlow <;> simp [filesAfter, slot?_fixed h, OrderedMap.get?_insert, hne]

/-- When the flows are their own slots, each stays but the one under the alias table. -/
theorem get?_filesAfter_flowFile (h : ∀ c ∈ directory, Path.IsName c)
    (hslots : ∀ tcode ∈ r.flows.keys, slot? directory (flowFile tcode) = some (flowFile tcode))
    (hsmall : lowercase tcode = tcode) (hne : tcode ≠ "aliases") :
    (filesAfter directory ∅ r.outputs).get? (flowFile tcode) =
      (r.flows.get? tcode).map documentBytes := by
  obtain ⟨haliases, hmain⟩ := slot?_fixed h
  have hall : ∀ output ∈ r.outputs, slot? directory output.name = some output.name :=
    (r.forall_outputs_iff fun name => slot? directory name = some name).2
      ⟨hslots, haliases, fun _ => hmain⟩
  rw [Storage.get?_filesAfter hall, ← get?_writeTo_flowFile hsmall hne]
  rfl

end CompileResult

/-! ## Compiled batches -/

/-- **Codes decide what a directory gets.** A batch is written into an empty directory exactly if
the file of every flow lies right in it, and then the alias table is there. Codes without slashes
are such, and each flow but that of `aliases` can be read back. In any case the directory holds
what comes before the first flow that has no place. All this is about documents whose texts are
texts of characters; a text with half of a pair alone has no bytes to be written in. -/
theorem writeInto_directory (options : CompileOptions) (documents : OrderedMap Json)
    {t : FileTree} {directory : List String} (hempty : t.Holds directory ∅)
    (hcodes : ∀ tcode ∈ (compileDocuments options documents).1.flows.keys,
      Path.hasNull tcode = false ∧ FileTree.isTooLong (flowFile tcode) = false) :
    let r := (compileDocuments options documents).1
    let after := r.writeInto t directory
    (after.2 = .ok r.written ↔ ∀ tcode ∈ r.flows.keys,
        ∃ file, Path.resolve directory (flowFile tcode) = directory ++ [file]) ∧
      (after.2 = .ok r.written →
        after.1.read (directory ++ [aliasesFile]) = .ok (documentBytes r.table.stored.toJson)) ∧
      ((∀ tcode ∈ r.flows.keys, '/' ∉ tcode.toList) →
        after.2 = .ok r.written ∧
          ∀ tcode flow, r.flows.get? tcode = some flow → tcode ≠ "aliases" →
            after.1.read (directory ++ [flowFile tcode]) = .ok (documentBytes flow)) ∧
      after.1.Holds directory (filesAfter directory ∅ r.outputs) := by
  intro r after
  have hafter := r.writeInto_holds hempty
  have hok := r.writeInto_isOk_iff hempty
  refine ⟨hok.trans (forall₂_congr fun tcode h => ?_), fun hsuccess => ?_, fun hplain => ?_, hafter⟩
  · exact isSome_slot?_flowFile_iff (hcodes tcode h).1 (hcodes tcode h).2
  · exact hafter.read (by decide) (by decide)
      (r.get?_filesAfter_aliasesFile hempty.isName (hok.1 hsuccess))
  · have hnames : ∀ tcode ∈ r.flows.keys, Path.IsName (flowFile tcode) := fun tcode h =>
      isName_flowFile (hcodes tcode h).1 (hplain tcode h)
    have hslots : ∀ tcode ∈ r.flows.keys,
        slot? directory (flowFile tcode) = some (flowFile tcode) := fun tcode h =>
      Storage.slot?_of_isName hempty.isName (hnames tcode h) (hcodes tcode h).2
    refine ⟨hok.2 fun tcode h => by rw [hslots tcode h]; rfl, fun tcode flow hflow hne => ?_⟩
    have hmem := OrderedMap.mem_keys_of_get? hflow
    have hstored : (filesAfter directory ∅ r.outputs).get? (flowFile tcode) =
        some (documentBytes flow) := by
      rw [r.get?_filesAfter_flowFile hempty.isName hslots (small_of_mem_flows hmem) hne, hflow]
      rfl
    exact hafter.read (hnames tcode hmem).ne_points (hcodes tcode hmem).2 hstored

namespace Sample

/-- A directory with nothing in it. -/
def bare : FileTree := ⟨[(["out"], .directory)]⟩

theorem bare_holds : bare.Holds ["out"] ∅ := by
  refine ⟨by decide, by decide, fun place hplace => ?_, fun name => ?_, fun name other rest => ?_⟩
  · rcases List.prefix_cons_iff.1 hplace with rfl | ⟨rest, rfl, hrest⟩
    · rfl
    · rw [List.prefix_nil.1 hrest]
      rfl
  · simp [bare, FileTree.at?, FileTree.lookup_cons, OrderedMap.get?, Entries.get?]
  · simp [bare, FileTree.at?, FileTree.lookup_cons]

/-- Recordings that say their transaction codes and nothing else. -/
def coded (tcodes : List String) : OrderedMap Json :=
  .ofList (tcodes.map fun tcode =>
    (tcode ++ ".json", .obj [("Tcode", .str tcode), ("Steps", .arr [])]))

end Sample

theorem writeInto_directory_plain :
    let r := (compileDocuments ⟨"2024-01-01", .null, false, []⟩ (Sample.coded ["VA01", "MM02"])).1
    let after := r.writeInto Sample.bare ["out"]
    Sample.bare.Holds ["out"] ∅ ∧ r.flows.keys = ["va01", "mm02"] ∧ after.2 = .ok r.written ∧
      after.1.read ["out", aliasesFile] = .ok (documentBytes r.table.stored.toJson) ∧
      ∀ tcode flow, r.flows.get? tcode = some flow → tcode ≠ "aliases" →
        after.1.read ["out", flowFile tcode] = .ok (documentBytes flow) := by
  intro r after
  have hkeys : r.flows.keys = ["va01", "mm02"] := by rfl
  have hcodes : ∀ tcode ∈ r.flows.keys,
      Path.hasNull tcode = false ∧ FileTree.isTooLong (flowFile tcode) = false := by
    rw [hkeys]
    decide
  have hplain : ∀ tcode ∈ r.flows.keys, '/' ∉ tcode.toList := by
    rw [hkeys]
    decide
  obtain ⟨_, htable, hflows, _⟩ := writeInto_directory _ _ Sample.bare_holds hcodes
  obtain ⟨hok, hread⟩ := hflows hplain
  exact ⟨Sample.bare_holds, hkeys, hok, htable hok, hread⟩

/-- The first of two flows has no place, and nothing at all is written. -/
theorem writeInto_stops :
    let r := (compileDocuments ⟨"2024-01-01", .null, false, []⟩
      (Sample.coded ["sapapo/x", "VA01"])).1
    Sample.bare.Holds ["out"] ∅ ∧ r.flows.keys = ["sapapo/x", "va01"] ∧
      (∀ tcode ∈ r.flows.keys,
        Path.hasNull tcode = false ∧ FileTree.isTooLong (flowFile tcode) = false) ∧
      r.writeInto Sample.bare ["out"] =
        (Sample.bare, .error (.atPath .notFound "/out/sapapo/x.json")) := by
  intro r
  have hkeys : r.flows.keys = ["sapapo/x", "va01"] := by rfl
  have hcodes : ∀ tcode ∈ r.flows.keys,
      Path.hasNull tcode = false ∧ FileTree.isTooLong (flowFile tcode) = false := by
    rw [hkeys]
    decide
  exact ⟨Sample.bare_holds, hkeys, hcodes, by rfl⟩

end ReplayFlow
