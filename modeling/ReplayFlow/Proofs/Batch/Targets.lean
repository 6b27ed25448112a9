import ReplayFlow.Proofs.Batch.Resolution
import ReplayFlow.Proofs.Flow.Targets

/-!
Aliases and catalogs. The targets of a compiled flow are names, and a catalog
holds control paths; the report on the names is the one on the recorded paths
(`compileDocuments_reports_targets`). What the flow writes for a group is looked
at only to leave out what a program handles, and to say it in the report.
-/

namespace ReplayFlow

open Alias Recording

/-! ## Groups and their steps -/

/-- What is picked from the steps of groups, told by the groups and their numbers. -/
theorem Recording.filterMap_groupSteps {β : Type} {f : Step → Option β}
    {g : Event × Nat → Option β} {groups : List Event} {index : Nat}
    (h : ∀ numbered ∈ groups.zipIdx index, ∀ next,
      f (legacyStep numbered.1 numbered.2 next) = g numbered) :
    (groupSteps index groups).filterMap f = (groups.zipIdx index).filterMap g := by
  induction groups generalizing index with
  | nil => rfl
  | cons group rest ih =>
    have hfirst := h (group, index) (List.mem_cons_self ..)
    have hrest := ih fun numbered hmem => h numbered (List.mem_cons_of_mem _ hmem)
    rw [groupSteps, List.zipIdx_cons, List.filterMap_cons, List.filterMap_cons, hfirst, hrest]

namespace Batch

/-- What a catalog has against the step of a group, told by the path that was recorded. -/
def missing? (flow catalog : Json) (numbered : Event × Nat) : Option Violation :=
  let id := "step" ++ toString numbered.2
  (Flow.targetAt? flow id).bind fun target =>
    if Flow.isProgrammatic target || numbered.1.controlId.string?.any (Catalog.lists catalog) then
      none
    else some ⟨id, .targetNotFound target⟩

/-- A step of a legacy flow as the checks see it, with the name of its target. -/
def flowStep (naming : Naming) (step : Step) : FlowStep :=
  ⟨step.id, none, Flow.legacyBody (naming.nameStep step)⟩

theorem unfound?_flowStep (table : AliasTable String) (tcode : Option String) (ids : List Json)
    (naming : Naming) (step : Step) :
    Flow.unfound? table tcode ids (flowStep naming step) =
      (StepMap.expectedTarget? (naming.nameStep step)).bind fun target =>
        if Flow.isProgrammatic target || Catalog.isAmong ids (table.resolveTarget tcode target) then
          none
        else some ⟨step.id, .targetNotFound target⟩ := by
  rw [Flow.unfound?, flowStep, Flow.field_legacyBody_target]

theorem unfound?_of_untargeted (step : Step) (h : step.target = none) (table : AliasTable String)
    (tcode : Option String) (ids : List Json) (naming : Naming) :
    Flow.unfound? table tcode ids (flowStep naming step) = none := by
  have hnamed := (Naming.target_nameStep naming step).trans h
  rw [unfound?_flowStep, StepMap.expectedTarget?_of_noTarget hnamed, Option.bind_none]

/-- Only the steps of groups can be reported. -/
theorem filterMap_flowSteps {table : AliasTable String} {tcode : Option String} {ids : List Json}
    {naming : Naming} {groups : List Event} {report : Event × Nat → Option Violation}
    (h : ∀ numbered ∈ groups.zipIdx 1, ∀ next,
      Flow.unfound? table tcode ids (flowStep naming (legacyStep numbered.1 numbered.2 next)) =
        report numbered) (first : String) :
    ((Step.start first :: (groupSteps 1 groups ++ [exitStep])).map (flowStep naming)).filterMap
      (Flow.unfound? table tcode ids) = (groups.zipIdx 1).filterMap report := by
  have hstart := unfound?_of_untargeted (.start first) rfl table tcode ids naming
  have hexit := unfound?_of_untargeted exitStep rfl table tcode ids naming
  rw [List.map_cons, List.map_append, List.filterMap_cons_none hstart, List.filterMap_append,
    List.filterMap_map, filterMap_groupSteps (f := _ ∘ _) h, List.map_singleton,
    List.filterMap_cons_none hexit]
  exact List.append_nil _

variable {entries : List Entry} {e : Entry} {t : Transaction}

/-- The steps of the flow of a legacy recording in order: the start, the steps of the groups and
the exit. -/
theorem steps_of_legacy (hok : e.transaction = .ok t)
    (hformat : Format.detect e.document = .legacy) (b : Batch) (date : Json) :
    ∃ first, Flow.steps (Flow.assemble date (b.named t)).document =
      .ok ((Step.start first :: (groupSteps 1 (Event.groupsOf (legacyEvents e.document)) ++
        [exitStep])).map
          (flowStep (Naming.ofTransaction (chooseHeads b.transactions.values) t))) := by
  obtain ⟨hchained, hids, more, hdocument⟩ := assemble_legacy hok hformat b date
  obtain ⟨code, hsame⟩ := Entry.legacy_of_transaction hok hformat
  have hsteps := hsame.steps.trans (steps_legacyTransaction code (legacyEvents e.document))
  have hpasses : ∀ entry ∈ (Flow.legacySteps (b.named t)).entries,
      Entries.contains entry.2 "action" = true :=
    fun entry hentry => (Flow.passes_of_chained hchained entry hentry).action
  refine ⟨if (Event.groupsOf (legacyEvents e.document)).isEmpty then endStep else "step1", ?_⟩
  rw [hdocument, Flow.steps_documentOf hpasses, Flow.entries_legacySteps (hids ▸ nodup_chainIds _),
    ← hsteps, named, Naming.nameSteps, List.map_map, List.map_map]
  refine congrArg Except.ok (List.map_congr_left fun step _ => ?_)
  simp [Flow.stepOf, flowStep, Naming.id_nameStep]

/-- The target written for a group is a name, and in the table of the batch the name stands for
the path that was recorded. -/
theorem resolveTarget_of_group (h : Survives entries e t)
    (hformat : Format.detect e.document = .legacy) (hempty : t.tcode ≠ "")
    (hshared : t.tcode ≠ sharedSpace) (options : CompileOptions) {group : Event} {number : Nat}
    (hgroup : (group, number) ∈ (Event.groupsOf (legacyEvents e.document)).zipIdx 1)
    {path : String} (hcontrol : group.controlId = .str path) (hrooted : IsRooted path)
    (hbrace : '\x7b' ∉ path.toList) :
    let b := ofEntries entries
    let naming := Naming.ofTransaction (chooseHeads b.transactions.values) t
    ∃ name, (∀ next, StepMap.expectedTarget? (naming.nameStep (legacyStep group number next)) =
        some name) ∧
      Flow.targetAt? (Flow.assemble options.date (b.named t)).document ("step" ++ toString number) =
        some name ∧
      (b.assemble options).result.table.resolveTarget (some t.tcode) name = path := by
  intro b naming
  obtain ⟨hnumber, hget⟩ := List.mem_zipIdx_iff_le_and_getElem?_sub.1 hgroup
  obtain ⟨name, body, hname, hbody, htarget⟩ := target_of_group (transaction_of_survives h) hformat
    hget hcontrol hrooted b options.date
  have hstep : number - 1 + 1 = number := Nat.sub_add_cancel hnumber
  rw [hstep] at hbody
  have hclean : '\x7b' ∉ name.toList := fun hmem => hbrace (Naming.brace_of_mem_name hname hmem)
  have hresolve := resolve_generate (get?_addAll_of_survives (b := {}) h) hempty hshared hbrace hname
  refine ⟨name, fun next => ?_, ?_,
    AliasTable.resolveTarget_of_resolve hclean hresolve hrooted.ne_empty⟩
  · refine Naming.expectedTarget?_nameStep ?_ hrooted.ne_empty hname (Naming.name_ne_empty hname)
    rw [target_legacyStep, hcontrol]
    rfl
  · rw [Flow.targetAt?, hbody, Option.bind_some, Entries.field, htarget]
    rfl

end Batch

/-- **Aliases are transparent to a catalog.** For a surviving legacy recording on control paths
without braces, the report on the targets of its flow is the report on the paths: in order, one
finding for each group on a control that the catalog lacks, unless a program handles its target. -/
theorem compileDocuments_reports_targets {documents : OrderedMap Json} {document : String × Json}
    {t : Transaction}
    (h : Batch.Survives (documents.entries.map Entry.ofDocument) (Entry.ofDocument document) t)
    (hformat : Format.detect document.2 = .legacy) (hempty : t.tcode ≠ "")
    (hshared : t.tcode ≠ sharedSpace)
    (hcontrols : ∀ group ∈ Event.groupsOf (legacyEvents document.2), ∃ path,
      group.controlId = .str path ∧ IsRooted path ∧ '\x7b' ∉ path.toList)
    {catalog : Json} (hcatalog : Catalog.IsCaptured catalog) (options : CompileOptions) :
    let result := (compileDocuments options documents).1
    let groups := Event.groupsOf (legacyEvents document.2)
    ∃ flow, result.flows.get? t.tcode = some flow ∧
      (∀ numbered ∈ groups.zipIdx 1, ∃ target,
        Flow.targetAt? flow ("step" ++ toString numbered.2) = some target) ∧
      Flow.validateTargets (Flow.resolveBy result.table (some t.tcode)) flow catalog =
        .ok ((groups.zipIdx 1).filterMap (Batch.missing? flow catalog)) := by
  intro result groups
  let b := Batch.ofEntries (documents.entries.map Entry.ofDocument)
  let naming := Naming.ofTransaction (chooseHeads b.transactions.values) t
  obtain ⟨ids, hids, hamong⟩ := Catalog.any_ids hcatalog
  obtain ⟨first, hsteps⟩ := Batch.steps_of_legacy (Batch.transaction_of_survives h) hformat b
    options.date
  have hgroup : ∀ numbered ∈ groups.zipIdx 1, ∃ path, numbered.1.controlId = .str path ∧
      IsRooted path ∧ '\x7b' ∉ path.toList := by
    intro numbered hmem
    exact hcontrols _ (List.mem_of_getElem? (List.mem_zipIdx_iff_le_and_getElem?_sub.1 hmem).2)
  refine ⟨_, Batch.flow_of_survives h options, fun numbered hmem => ?_, ?_⟩
  · obtain ⟨path, hcontrol, hrooted, hbrace⟩ := hgroup numbered hmem
    obtain ⟨name, _, htarget, _⟩ := Batch.resolveTarget_of_group h hformat hempty hshared options
      hmem hcontrol hrooted hbrace
    exact ⟨name, htarget⟩
  · have hreport : ∀ numbered ∈ groups.zipIdx 1, ∀ next,
        Flow.unfound? result.table (some t.tcode) ids
          (Batch.flowStep naming (legacyStep numbered.1 numbered.2 next)) =
        Batch.missing? (Flow.assemble options.date (b.named t)).document catalog numbered := by
      intro numbered hmem next
      obtain ⟨path, hcontrol, hrooted, hbrace⟩ := hgroup numbered hmem
      obtain ⟨name, hexpected, htarget, hresolve⟩ := Batch.resolveTarget_of_group h hformat hempty
        hshared options hmem hcontrol hrooted hbrace
      have hpath : result.table.resolveTarget (some t.tcode) name = path := hresolve
      have hlisted : (Json.str path).string?.any (Catalog.lists catalog) =
          Catalog.isAmong ids (result.table.resolveTarget (some t.tcode) name) := by
        rw [hpath, hamong path hrooted.ne_empty]
        rfl
      rw [Batch.missing?, htarget, Batch.unfound?_flowStep, hexpected, id_legacyStep, hcontrol,
        hlisted]
      rfl
    rw [Flow.validateTargets, hids]
    simp only [bind, Except.bind]
    rw [hsteps]
    simp only [Flow.targetViolations_resolveBy]
    exact congrArg Except.ok (Batch.filterMap_flowSteps hreport first)

/-- A catalog with the button of the recordings, and without their field. -/
def Sample.catalog : Json :=
  .obj [("TargetControls", .obj [("buttons", .arr [
    .obj [("Id", .str "/app/con[0]/ses[0]/wnd[0]/tbar[1]/btn[8]")]])])]

theorem compileDocuments_reports_targets_create :
    ∃ t, Batch.Survives (Sample.documents.entries.map Entry.ofDocument)
        (Entry.ofDocument ("create.json", Sample.create)) t ∧
      Format.detect Sample.create = .legacy ∧ t.tcode ≠ "" ∧ t.tcode ≠ sharedSpace ∧
      (∀ group ∈ Event.groupsOf (legacyEvents Sample.create), ∃ path,
        group.controlId = .str path ∧ IsRooted path ∧ '\x7b' ∉ path.toList) ∧
      Catalog.IsCaptured Sample.catalog ∧
      let result := (compileDocuments ⟨"2024-01-01", .null, false, []⟩ Sample.documents).1
      let groups := Event.groupsOf (legacyEvents Sample.create)
      ∃ flow, result.flows.get? t.tcode = some flow ∧
        (∀ numbered ∈ groups.zipIdx 1, ∃ target,
          Flow.targetAt? flow ("step" ++ toString numbered.2) = some target) ∧
        Flow.validateTargets (Flow.resolveBy result.table (some t.tcode)) flow Sample.catalog =
          .ok ((groups.zipIdx 1).filterMap (Batch.missing? flow Sample.catalog)) := by
  obtain ⟨t, hsurvives, htcode⟩ := Batch.survives_create
  have hformat : Format.detect Sample.create = .legacy := rfl
  have hempty : t.tcode ≠ "" := by
    rw [htcode]
    decide
  have hshared : t.tcode ≠ sharedSpace := by
    rw [htcode]
    decide
  have hgroups : Event.groupsOf (legacyEvents Sample.create) = [_, _] := rfl
  have hcontrols : ∀ group ∈ Event.groupsOf (legacyEvents Sample.create), ∃ path,
      group.controlId = .str path ∧ IsRooted path ∧ '\x7b' ∉ path.toList := by
    intro group hmem
    rw [hgroups, List.mem_cons, List.mem_singleton] at hmem
    obtain rfl | rfl := hmem <;> exact ⟨_, rfl, by rfl, by decide⟩
  have hcatalog : Catalog.IsCaptured Sample.catalog := by
    refine ⟨_, _, rfl, rfl, fun group hmem => ?_⟩
    rw [List.mem_singleton] at hmem
    subst hmem
    refine ⟨_, rfl, fun control hcontrol => ?_⟩
    rw [List.mem_singleton] at hcontrol
    exact ⟨_, _, hcontrol, rfl⟩
  exact ⟨t, hsurvives, hformat, hempty, hshared, hcontrols, hcatalog,
    compileDocuments_reports_targets hsurvives hformat hempty hshared hcontrols hcatalog _⟩

end ReplayFlow
