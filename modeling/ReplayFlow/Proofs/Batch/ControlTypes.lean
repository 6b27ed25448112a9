import ReplayFlow.Proofs.Batch.Survival
import ReplayFlow.Proofs.Recording.Grouping
import ReplayFlow.Proofs.Recording.Legacy
import ReplayFlow.Proofs.Recording.Tally

/-!
The types of control that a legacy flow lists. The events of a recording give them,
those too that have no step of their own (`kinds_legacyTransaction`). A group has the
type of its first event, and the registry that of the first step at a control, so the
analysis finds no type that is not there (`calledKinds_subset`). The flow lists what the
events name, in the order of first appearance (`compileDocuments_lists_types`).
-/

namespace ReplayFlow

open Recording Transaction

/-! ## Groups -/

namespace Event

variable {e before : Event} {events : List Event}

theorem controlType_groupFrom (h : e ∈ groupFrom before events) :
    ∃ first ∈ before :: events, e.controlType = first.controlType := by
  induction events generalizing before with
  | nil => exact ⟨before, List.mem_singleton_self _, by rw [List.mem_singleton.1 h]⟩
  | cons next rest ih =>
    rw [groupFrom] at h
    split at h
    · obtain ⟨first, hfirst, htype⟩ := ih h
      rcases List.mem_cons.1 hfirst with rfl | hrest
      · exact ⟨before, List.mem_cons_self .., htype⟩
      · exact ⟨first, List.mem_cons_of_mem _ (List.mem_cons_of_mem _ hrest), htype⟩
    · rcases List.mem_cons.1 h with rfl | hmore
      · exact ⟨_, List.mem_cons_self .., rfl⟩
      · obtain ⟨first, hfirst, htype⟩ := ih hmore
        exact ⟨first, List.mem_cons_of_mem _ hfirst, htype⟩

/-- A group has the type of one of its events. -/
theorem controlType_group (h : e ∈ group events) :
    ∃ first ∈ events, e.controlType = first.controlType := by
  cases events with
  | nil => cases h
  | cons first rest => exact controlType_groupFrom h

theorem eventKind?_of_read? {record : Json} (h : read? record = some e) :
    eventKind? record = e.controlType.string? := by
  cases record with
  | obj fields =>
    rw [read?_obj] at h
    split at h
    · cases h
      rfl
    · cases h
  | _ => cases h

theorem exists_record_of_group {records : List Json} (h : e ∈ groupsOf records) :
    ∃ record ∈ records, eventKind? record = e.controlType.string? := by
  obtain ⟨first, hfirst, htype⟩ := controlType_group h
  obtain ⟨record, hrecord, hread⟩ := List.mem_filterMap.1 hfirst
  exact ⟨record, hrecord, by rw [eventKind?_of_read? hread, htype]⟩

end Event

/-! ## Transactions -/

namespace Recording

variable {tcode kind : String} {events : List Json} {step : Step}

theorem kinds_addLegacySteps (t : Transaction) (index : Nat) (groups : List Event) :
    (addLegacySteps t index groups).kinds = t.kinds := by
  induction groups generalizing t index with
  | nil => rfl
  | cons e rest ih => rw [addLegacySteps, ih, kinds_addStep]

theorem kinds_legacyTransaction (tcode : String) (events : List Json) :
    (legacyTransaction tcode events).kinds = (givenKinds (events.map eventKind?)).eraseDups := by
  rw [legacyTransaction, kinds_addStep, kinds_addLegacySteps, kinds_addStep, addKinds_eq]
  exact Area.foldl_addNew_nil _

/-- A step has no type, or one that an event names. -/
theorem eventKind?_of_step (h : step ∈ (legacyTransaction tcode events).steps)
    (hkind : step.kind = some kind) : some kind ∈ events.map eventKind? := by
  rcases legacyTransaction_cases h with ⟨next, rfl⟩ | rfl | ⟨k, group, next, hget, rfl⟩
  · cases hkind
  · cases hkind
  · obtain ⟨record, hrecord, htype⟩ := Event.exists_record_of_group (List.mem_of_getElem? hget)
    rw [kind_legacyStep, ← htype] at hkind
    exact List.mem_map.2 ⟨record, hrecord, hkind⟩

/-- The registry calls for no type that the events have not given. -/
theorem calledKinds_subset (tcode : String) (events : List Json) :
    calledKinds (legacyTransaction tcode events).controls.entries ⊆
      (legacyTransaction tcode events).kinds := by
  intro kind hkind
  obtain ⟨hcalled, hne⟩ := mem_givenKinds.1 hkind
  obtain ⟨info, hinfo, hsome⟩ := List.mem_map.1 hcalled
  obtain ⟨⟨path, _⟩, hentry, rfl⟩ := List.mem_map.1 hinfo
  obtain ⟨first, rest, huses, hfirst, _⟩ :=
    (recorded_legacyTransaction tcode events).uses_of_get? (OrderedMap.get?_eq_some_iff.2 hentry)
  have hstep : first ∈ usesOf path (legacyTransaction tcode events).steps := by
    rw [huses]
    exact List.mem_cons_self ..
  rw [kinds_legacyTransaction, List.mem_eraseDups]
  exact mem_givenKinds.2
    ⟨eventKind?_of_step (List.mem_of_mem_filter hstep) (hfirst.symm.trans hsome), hne⟩

end Recording

/-- An accepted legacy recording has the types that its events name. -/
theorem Entry.kinds_of_legacy {e : Entry} {t : Transaction} (h : e.transaction = .ok t)
    (hformat : Format.detect e.document = .legacy) :
    t.kinds = (givenKinds ((legacyEvents e.document).map eventKind?)).eraseDups := by
  obtain ⟨code, rfl⟩ := Entry.eq_analyze_of_transaction h hformat
  rw [analyze_eq]
  dsimp only
  rw [Area.foldl_addNew_of_subset (calledKinds_subset _ _), kinds_legacyTransaction]

/-! ## Flows -/

/-- What a flow lists as its types of control. -/
def Flow.listedTypes? (flow : Json) : Option Json :=
  flow.object?.bind fun fields =>
    (Entries.field fields "metadata").object?.bind fun metadata =>
      Entries.get? metadata "controlTypes"

theorem Batch.listedTypes?_assemble {t : Transaction} (h : t.format = .legacy) (b : Batch)
    (date : Json) : Flow.listedTypes? (Flow.assemble date (b.named t)).document =
      some (.arr (t.kinds.map .str)) := by
  have hnamed : (b.named t).format = .legacy := h
  rw [Flow.assemble, hnamed]
  rfl

/-- **Recorded types are listed.** The flow of a surviving legacy recording lists the types that
are not empty of all its events, in the order of first appearance and each once, and no others. -/
theorem compileDocuments_lists_types {documents : OrderedMap Json} {document : String × Json}
    {t : Transaction}
    (h : Batch.Survives (documents.entries.map Entry.ofDocument) (Entry.ofDocument document) t)
    (hformat : Format.detect document.2 = .legacy) (options : CompileOptions) :
    let types := (givenKinds ((legacyEvents document.2).map eventKind?)).eraseDups
    ∃ flow, (compileDocuments options documents).1.flows.get? t.tcode = some flow ∧
      Flow.listedTypes? flow = some (.arr (types.map .str)) := by
  have hok := Batch.transaction_of_survives h
  obtain ⟨code, hsame⟩ := Entry.legacy_of_transaction hok hformat
  have hlegacy : t.format = .legacy :=
    hsame.format.trans (Transaction.sameFrame_legacyTransaction _ _).format
  rw [compileDocuments_eq]
  refine ⟨_, Batch.flow_of_survives h options, ?_⟩
  rw [Batch.listedTypes?_assemble hlegacy, Entry.kinds_of_legacy hok hformat]
  rfl

/-- A second input into a field under another type, a record without a control, a record that is
no object, an empty type and one that was there before. -/
def Sample.retyped : Json :=
  let event (action control kind : String) : Json :=
    .obj [("Action", .str action), ("ControlId", .str control), ("ControlType", .str kind)]
  .obj [("Tcode", .str "va05"), ("Steps", .arr [event "Input" "/usr/ctxtA" "GuiCTextField",
    event "Input" "/usr/ctxtA" "GuiTextField", event "Click" "" "GuiMenu", .str "note",
    event "Click" "/btn[8]" "", event "Click" "/btn[8]" "GuiTextField"])]

/-- A batch of that recording. -/
def Sample.retypedBatch : OrderedMap Json := .singleton "retyped.json" retyped

theorem compileDocuments_lists_types_retyped :
    ∃ t, Batch.Survives (Sample.retypedBatch.entries.map Entry.ofDocument)
        (Entry.ofDocument ("retyped.json", Sample.retyped)) t ∧
      Format.detect Sample.retyped = .legacy ∧
      ∃ flow, (compileDocuments ⟨"2024-01-01", .null, false, []⟩
          Sample.retypedBatch).1.flows.get? t.tcode = some flow ∧
        Flow.listedTypes? flow =
          some (.arr [.str "GuiCTextField", .str "GuiTextField", .str "GuiMenu"]) := by
  have hok : ∃ t, (Entry.ofDocument ("retyped.json", Sample.retyped)).transaction = .ok t :=
    ⟨_, rfl⟩
  obtain ⟨t, ht⟩ := hok
  have hsurvives : Batch.Survives (Sample.retypedBatch.entries.map Entry.ofDocument)
      (Entry.ofDocument ("retyped.json", Sample.retyped)) t := Batch.survives_alone ht
  have hformat : Format.detect Sample.retyped = .legacy := rfl
  obtain ⟨flow, hflow, hlisted⟩ :=
    compileDocuments_lists_types hsurvives hformat ⟨"2024-01-01", .null, false, []⟩
  have htypes : (givenKinds ((legacyEvents Sample.retyped).map eventKind?)).eraseDups =
      ["GuiCTextField", "GuiTextField", "GuiMenu"] := by decide
  rw [htypes] at hlisted
  exact ⟨t, hsurvives, hformat, flow, hflow, hlisted⟩

end ReplayFlow
