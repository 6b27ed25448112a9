import ReplayFlow.Flow.Targets
import ReplayFlow.Proofs.Alias.Generation
import ReplayFlow.Proofs.Batch.Legacy

/-!
Aliases lead back to what was recorded. The target written for a group of
events is the name of its control (`target_of_group`), and that name resolves to
the control path of the group, whatever became of the name in the rest of the
batch.
-/

namespace ReplayFlow

open Alias Recording

/-! ## Targets -/

namespace Alias.Naming

variable {naming : Naming} {step : Step} {path name : String}

/-- A step on a named control has the name for its target. -/
theorem expectedTarget?_nameStep (htarget : step.target = some path) (hpath : path ≠ "")
    (hget : naming.names.get? path = some name) (hname : name ≠ "") :
    StepMap.expectedTarget? (naming.nameStep step) = some name := by
  have hnamed : naming.nameStep step = { step with aliasName := some name } := by
    simp [nameStep, htarget, hpath, hget]
  simp [hnamed, StepMap.expectedTarget?, htarget, hpath, hname]

end Alias.Naming

theorem AliasTable.resolveTarget_of_resolve {table : AliasTable String} {tcode : Option String}
    {path name : String} (hbrace : '\x7b' ∉ name.toList)
    (h : table.resolve name tcode = some path) (hpath : path ≠ "") :
    table.resolveTarget tcode name = path := by
  have htoken : hasToken name = false :=
    Text.occursIn_of_not_mem (c := '\x7b') (by decide) hbrace
  simp [resolveTarget, htoken, h, hpath]

/-! ## The steps of groups -/

namespace Batch

variable {e : Entry} {t : Transaction} {k : Nat} {group : Event}

/-- The step of a group among the steps of its transaction. -/
theorem exists_step_of_group (hok : e.transaction = .ok t)
    (hformat : Format.detect e.document = .legacy)
    (hgroup : (Event.groupsOf (legacyEvents e.document))[k]? = some group) :
    ∃ next, legacyStep group (k + 1) next ∈ t.steps := by
  obtain ⟨code, hsame⟩ := Entry.legacy_of_transaction hok hformat
  obtain ⟨next, hmem⟩ := mem_groupSteps hgroup 1
  refine ⟨next, ?_⟩
  rw [hsame.steps, steps_legacyTransaction]
  exact List.mem_cons_of_mem _ (List.mem_append_left _ hmem)

/-- The target of the step of a group is the name of its control. -/
theorem target_of_group (hok : e.transaction = .ok t)
    (hformat : Format.detect e.document = .legacy)
    (hgroup : (Event.groupsOf (legacyEvents e.document))[k]? = some group) {path : String}
    (hcontrol : group.controlId = .str path) (hrooted : IsRooted path) (b : Batch) (date : Json) :
    ∃ name body, (Naming.ofTransaction (chooseHeads b.transactions.values) t).names.get? path =
        some name ∧
      Flow.bodyAt? (Flow.assemble date (b.named t)).document ("step" ++ toString (k + 1)) =
        some body ∧
      Entries.get? body "target" = some (.str name) := by
  obtain ⟨next, hmem⟩ := exists_step_of_group hok hformat hgroup
  have hregistered : path ∈ t.controls.keys :=
    (Entry.registered_of_transaction hok path).2
      ⟨_, hmem, control?_legacyStep hcontrol hrooted (k + 1) next⟩
  rw [← Naming.keys_names (chooseHeads b.transactions.values)] at hregistered
  obtain ⟨name, hname⟩ := OrderedMap.exists_get?_of_mem_keys hregistered
  obtain ⟨_, hids, more, hdocument⟩ := assemble_legacy hok hformat b date
  have hnamed := List.mem_map_of_mem
    (f := (Naming.ofTransaction (chooseHeads b.transactions.values) t).nameStep) hmem
  have hbody := Flow.bodyAt?_legacySteps (t := b.named t) (hids ▸ nodup_chainIds _) hnamed more
  rw [Naming.id_nameStep, id_legacyStep, ← hdocument] at hbody
  have htarget : (legacyStep group (k + 1) next).target = some path := by
    rw [target_legacyStep, hcontrol]
    rfl
  have hne := Naming.name_ne_empty hname
  exact ⟨name, _, hname, hbody, Flow.get?_legacyBody_target
    (Naming.expectedTarget?_nameStep htarget hrooted.ne_empty hname hne) hne⟩

end Batch

/-- **Alias soundness.** For each group of events of a surviving legacy recording that works on
a control path without braces, the target of its step resolves to that path. -/
theorem compileDocuments_resolves {documents : OrderedMap Json} {document : String × Json}
    {t : Transaction}
    (h : Batch.Survives (documents.entries.map Entry.ofDocument) (Entry.ofDocument document) t)
    (hformat : Format.detect document.2 = .legacy) (hempty : t.tcode ≠ "")
    (hshared : t.tcode ≠ sharedSpace) {k : Nat} {group : Event}
    (hgroup : (Event.groupsOf (legacyEvents document.2))[k]? = some group) {path : String}
    (hcontrol : group.controlId = .str path) (hrooted : IsRooted path)
    (hbrace : '\x7b' ∉ path.toList) (options : CompileOptions) :
    let result := (compileDocuments options documents).1
    ∃ flow body target, result.flows.get? t.tcode = some flow ∧
      Flow.bodyAt? flow ("step" ++ toString (k + 1)) = some body ∧
      Entries.get? body "target" = some (.str target) ∧
      result.table.resolveTarget (some t.tcode) target = path := by
  have hok := Batch.transaction_of_survives h
  obtain ⟨name, body, hname, hbody, htarget⟩ := Batch.target_of_group hok hformat hgroup hcontrol
    hrooted (Batch.ofEntries (documents.entries.map Entry.ofDocument)) options.date
  have hresolve := resolve_generate (Batch.get?_addAll_of_survives (b := {}) h) hempty hshared
    hbrace hname
  have hclean : '\x7b' ∉ name.toList := fun hmem => hbrace (Naming.brace_of_mem_name hname hmem)
  dsimp only
  rw [compileDocuments_eq]
  exact ⟨_, body, name, Batch.flow_of_survives h options, hbody, htarget,
    AliasTable.resolveTarget_of_resolve hclean hresolve hrooted.ne_empty⟩

theorem compileDocuments_resolves_create :
    ∃ t group, Batch.Survives (Sample.documents.entries.map Entry.ofDocument)
        (Entry.ofDocument ("create.json", Sample.create)) t ∧
      Format.detect Sample.create = .legacy ∧ t.tcode ≠ "" ∧ t.tcode ≠ sharedSpace ∧
      (Event.groupsOf (legacyEvents Sample.create))[1]? = some group ∧
      group.controlId = .str "/app/con[0]/ses[0]/wnd[0]/tbar[1]/btn[8]" ∧
      let result := (compileDocuments ⟨"2024-01-01", .null, false, []⟩ Sample.documents).1
      ∃ flow body target, result.flows.get? t.tcode = some flow ∧
        Flow.bodyAt? flow "step2" = some body ∧
        Entries.get? body "target" = some (.str target) ∧
        result.table.resolveTarget (some t.tcode) target =
          "/app/con[0]/ses[0]/wnd[0]/tbar[1]/btn[8]" := by
  obtain ⟨t, hsurvives, htcode⟩ := Batch.survives_create
  have hformat : Format.detect Sample.create = .legacy := rfl
  have hempty : t.tcode ≠ "" := by
    rw [htcode]
    decide
  have hshared : t.tcode ≠ sharedSpace := by
    rw [htcode]
    decide
  exact ⟨t, _, hsurvives, hformat, hempty, hshared, rfl, rfl,
    compileDocuments_resolves (k := 1) hsurvives hformat hempty hshared rfl rfl (by rfl)
      (by decide) _⟩

end ReplayFlow
