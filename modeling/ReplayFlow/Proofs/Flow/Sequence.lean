import Mathlib.Data.List.Nodup
import ReplayFlow.Flow.Sequence
import ReplayFlow.Proofs.Flow.Chain
import ReplayFlow.Proofs.Text.Ascii

/-!
The flow that runs a batch. Where codes stay apart once their first letters are
capitals, its steps are a chain of one run for each code, in order, and the exit
(`entries_steps`, `chained_runs`). To a reader of the document it is a linear chain
that runs each transaction once, and the checks find nothing in it
(`mainFlow_runs_each`).
-/

namespace ReplayFlow

/-- Capitals do not bring together what differs in small letters. -/
theorem Text.eq_of_capitalize_eq {text more : List Char} (h : IsAscii text) (hmore : IsAscii more)
    (hsmall : lower text = text) (hsmallMore : lower more = more)
    (heq : capitalize text = capitalize more) : text = more := by
  have hletters : small text = small more := by
    rw [← small_capitalize h, heq, small_capitalize hmore]
  rwa [← lower_of_isAscii h, ← lower_of_isAscii hmore, hsmall, hsmallMore] at hletters

namespace Sequence

open StepMap (Chained)

variable {steps : OrderedMap Body} {tcodes : List String} {tcode : String}

/-! ## Codes -/

/-- Codes that stay apart when their first letters are capitals. -/
def Apart (tcodes : List String) : Prop :=
  (tcodes.map fun tcode => Text.capitalize tcode.toList).Nodup

/-- A code in small letters of ASCII. -/
def IsSmall (tcode : String) : Prop := Text.IsAscii tcode.toList ∧ lowercase tcode = tcode

theorem apart_of_isSmall (hn : tcodes.Nodup) (h : ∀ tcode ∈ tcodes, IsSmall tcode) :
    Apart tcodes := by
  have hlower : ∀ tcode ∈ tcodes, Text.lower tcode.toList = tcode.toList := by
    intro tcode hmem
    have hsame := congrArg String.toList (h tcode hmem).2
    rwa [lowercase, String.toList_ofList] at hsame
  refine List.Nodup.map_on (fun tcode hmem other hother heq => ?_) hn
  exact String.toList_injective (Text.eq_of_capitalize_eq (h tcode hmem).1 (h other hother).1
    (hlower tcode hmem) (hlower other hother) heq)

theorem nodup_runSteps (h : Apart tcodes) : (tcodes.map runStep).Nodup := by
  have hsteps : tcodes.map runStep =
      (tcodes.map fun tcode => Text.capitalize tcode.toList).map
        fun letters => String.ofList ("run".toList ++ letters) := by
    rw [List.map_map]
    rfl
  rw [hsteps]
  refine List.Nodup.map (fun letters more heq => ?_) h
  exact List.append_cancel_left (String.ofList_injective heq)

theorem runStep_ne_empty (tcode : String) : runStep tcode ≠ "" := by
  intro heq
  have hletters := congrArg String.toList heq
  simp [runStep] at hletters

theorem runStep_ne_endStep (tcode : String) : runStep tcode ≠ endStep := by
  intro heq
  have hletters := congrArg String.toList heq
  simp [runStep, endStep] at hletters

/-! ## Steps -/

/-- The runs of some transactions, each going on to the one behind it, and the exit. -/
def runs : List String → Entries Body
  | [] => [(endStep, Body.exit)]
  | tcode :: rest =>
    (runStep tcode, runBody tcode ((rest.head?.map runStep).getD endStep)) :: runs rest

theorem keys_runs (tcodes : List String) :
    Entries.keys (runs tcodes) = tcodes.map runStep ++ [endStep] := by
  induction tcodes with
  | nil => rfl
  | cons tcode rest ih => exact congrArg (runStep tcode :: ·) ih

theorem goesOn_runBody (tcode next : String) : Body.GoesOn (runBody tcode next) next :=
  ⟨⟨"callSubflow", rfl, by decide, by decide⟩, rfl, rfl, rfl⟩

theorem ends_exit : Body.Ends Body.exit := ⟨rfl, by decide⟩

theorem chained_runs (tcodes : List String) : Chained (runs tcodes) := by
  induction tcodes with
  | nil => exact .exit ends_exit
  | cons tcode rest ih =>
    cases rest with
    | nil => exact .link (goesOn_runBody tcode endStep) (by decide) ih
    | cons second more =>
      exact .link (goesOn_runBody tcode (runStep second)) (runStep_ne_empty second) ih

/-- Runs under new ids are appended as they come, and the exit last. -/
theorem entries_addRuns (h : (steps.keys ++ (tcodes.map runStep ++ [endStep])).Nodup) :
    ((addRuns steps tcodes).insert endStep Body.exit).entries = steps.entries ++ runs tcodes := by
  induction tcodes generalizing steps with
  | nil =>
    have hfresh : endStep ∉ steps.keys := fun hmem =>
      (List.nodup_append.1 h).2.2 _ hmem _ (List.mem_singleton_self _) rfl
    exact OrderedMap.entries_insert_of_not_mem hfresh _
  | cons tcode rest ih =>
    have hfresh : runStep tcode ∉ steps.keys := fun hmem =>
      (List.nodup_append.1 h).2.2 _ hmem _ (List.mem_cons_self ..) rfl
    rw [addRuns, ih, OrderedMap.entries_insert_of_not_mem hfresh, List.append_assoc]
    · rfl
    · rw [OrderedMap.keys_insert, if_neg hfresh, List.append_assoc]
      exact h

theorem entries_steps (h : Apart tcodes) : (Sequence.steps tcodes).entries = runs tcodes := by
  have hfresh : endStep ∉ tcodes.map runStep := by
    intro hmem
    obtain ⟨tcode, _, heq⟩ := List.mem_map.1 hmem
    exact runStep_ne_endStep tcode heq
  have hids : (tcodes.map runStep ++ [endStep]).Nodup :=
    List.nodup_append_comm.1 (List.nodup_cons.2 ⟨hfresh, nodup_runSteps h⟩)
  exact entries_addRuns hids

/-! ## The document -/

/-- A flow that runs transactions one after the other: its steps are a chain of one step for
each, which calls the flow of that transaction, and the exit. -/
structure RunsEach (flow : Json) (tcodes : List String) : Prop where
  chain : Flow.LinearChain flow (tcodes.map runStep ++ [endStep])
  calls : ∀ tcode ∈ tcodes, ∃ body, Flow.bodyAt? flow (runStep tcode) = some body ∧
    Body.hasAction body "callSubflow" = true ∧
    Entries.get? body "subflow" = some (.str tcode)

/-- The flow that a document holds beside the alias table. -/
def mainFlow? (document : Json) : Option Json :=
  document.object?.bind fun fields => Entries.get? fields "$mainFlow"

theorem mainFlow?_document (today : String) (tcodes : List String) (table : AliasTable Json)
    (info : Entries Json) :
    mainFlow? (document today tcodes table info) =
      some (Flow.documentOf (Sequence.steps tcodes) []) := rfl

theorem exists_run (h : tcode ∈ tcodes) :
    ∃ next, (runStep tcode, runBody tcode next) ∈ runs tcodes := by
  induction tcodes with
  | nil => cases h
  | cons first rest ih =>
    rcases List.mem_cons.1 h with rfl | hrest
    · exact ⟨_, List.mem_cons_self ..⟩
    · obtain ⟨next, hmem⟩ := ih hrest
      exact ⟨next, List.mem_cons_of_mem _ hmem⟩

theorem runsEach_documentOf (h : Apart tcodes) :
    RunsEach (Flow.documentOf (Sequence.steps tcodes) []) tcodes := by
  have hentries := entries_steps h
  refine ⟨?_, fun tcode hmem => ?_⟩
  · have hkeys : (Sequence.steps tcodes).keys = tcodes.map runStep ++ [endStep] := by
      rw [OrderedMap.keys, hentries, keys_runs]
    rw [← hkeys]
    exact Flow.linearChain_document (hentries ▸ chained_runs tcodes) []
  · obtain ⟨next, hrun⟩ := exists_run hmem
    refine ⟨runBody tcode next, ?_, rfl, rfl⟩
    rw [Flow.bodyAt?_documentOf, OrderedMap.get?_eq_some_iff, hentries]
    exact hrun

/-- **A batch is run in order.** Where the codes stay apart with capitals for their first letters,
as different codes in small letters of ASCII do, the flow beside any alias table runs each
transaction once, in the order of the codes, and exits; and the checks find nothing in it. -/
theorem mainFlow_runs_each (today : String) (table : AliasTable Json) (info : Entries Json) :
    (∀ tcodes, tcodes.Nodup → (∀ tcode ∈ tcodes, IsSmall tcode) → Apart tcodes) ∧
      ∀ tcodes, Apart tcodes → ∃ flow,
        mainFlow? (document today tcodes table info) = some flow ∧ RunsEach flow tcodes ∧
          Flow.validate flow = .ok [] := by
  refine ⟨fun _ => apart_of_isSmall, fun tcodes h => ?_⟩
  refine ⟨_, mainFlow?_document today tcodes table info, runsEach_documentOf h, ?_⟩
  exact Flow.validate_document (entries_steps h ▸ chained_runs tcodes) []

theorem mainFlow_runs_each_pair :
    (["zb", "za1"].Nodup ∧ ∀ tcode ∈ ["zb", "za1"], IsSmall tcode) ∧ Apart ["zb", "za1"] ∧
      ∃ flow, mainFlow? (document "2024-01-01" ["zb", "za1"] AliasTable.empty []) = some flow ∧
        RunsEach flow ["zb", "za1"] ∧ Flow.validate flow = .ok [] := by
  have hsmall : ∀ tcode ∈ ["zb", "za1"], IsSmall tcode := by
    intro tcode hmem
    rcases List.mem_pair.1 hmem with rfl | rfl <;> exact ⟨by decide, rfl⟩
  obtain ⟨hapart, hruns⟩ := mainFlow_runs_each "2024-01-01" AliasTable.empty []
  have hcodes := hapart ["zb", "za1"] (by decide) hsmall
  exact ⟨⟨by decide, hsmall⟩, hcodes, hruns _ hcodes⟩

end Sequence

end ReplayFlow
