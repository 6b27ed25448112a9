import ReplayFlow.Proofs.Batch.Recompilation
import ReplayFlow.Proofs.Flow.Dangling

/-!
Flows of steps-only recordings. The flow of such a recording is its records under
their ids, each with its action normalized in front and without an id of its own; and
what is reported of it as naming no step are the references that name none in the
recording (`compileDocuments_carries`).
-/

namespace ReplayFlow

open Recording

namespace Flow

variable {all : List FlowStep} {step : FlowStep} {ids : List String}
  {id key reference : String} {records : Entries Body} {record : Body}

/-! ## What is reported of references -/

theorem mem_dangling_iff {found : List Violation} :
    ⟨id, .danglingReference key reference⟩ ∈ dangling found ↔
      ⟨id, .danglingReference key reference⟩ ∈ found := by
  simp [dangling, Defect.name]

theorem mem_danglingLinks_iff :
    .danglingReference key reference ∈ danglingLinks ids step ↔
      key ∈ referenceKeys ∧ (Entries.field step.body key).isNull = false ∧
        linkResolves ids step.context (Entries.field step.body key) = false ∧
          (Entries.field step.body key).display = reference := by
  simp only [danglingLinks, List.mem_filterMap, Option.ite_none_left_eq_some, Option.some.injEq,
    Defect.danglingReference.injEq, Bool.or_eq_true, not_or, Bool.not_eq_true]
  constructor
  · rintro ⟨_, hkey, ⟨hfilled, hlink⟩, rfl, hreference⟩
    exact ⟨hkey, hfilled, hlink, hreference⟩
  · rintro ⟨hkey, hfilled, hlink, hreference⟩
    exact ⟨key, hkey, ⟨hfilled, hlink⟩, rfl, hreference⟩

/-- A reference is reported where a step that is no exit has it and it names nothing. -/
theorem mem_violationsOf_iff :
    ⟨id, .danglingReference key reference⟩ ∈ violationsOf all ↔
      ∃ step ∈ all, step.id = id ∧ step.isExit = false ∧
        .danglingReference key reference ∈ danglingLinks (all.map FlowStep.id) step := by
  have hexits : ⟨id, .danglingReference key reference⟩ ∉
      exitViolations ((all.filter FlowStep.isExit).map FlowStep.id) := by
    rw [← mem_dangling_iff, dangling_exitViolations]
    exact List.not_mem_nil
  rw [violationsOf, List.mem_append, or_iff_left hexits, List.mem_flatMap]
  refine exists_congr fun step => and_congr_right fun _ => ?_
  rw [← mem_dangling_iff, dangling_stepViolations]
  cases step.isExit <;> simp [and_comm]

/-! ## Records -/

/-- A reference of a record, not of an exit, that is neither null nor the end nor the id of a
step. -/
structure Stray (ids : List String) (record : Body) (key : String) : Prop where
  going : Action.normalize (Entries.field record "action") ≠ "exit"
  notNull : Entries.field record key ≠ .null
  notEnd : Entries.field record key ≠ .str endStep
  unknown : ∀ id ∈ ids, Entries.field record key ≠ .str id

theorem linkResolves_none_iff (link : Json) :
    linkResolves ids none link = true ↔ link = .str endStep ∨ ∃ id ∈ ids, link = .str id := by
  cases link <;> simp [linkResolves]

/-- What is reported at the step of a record are its stray references. -/
theorem stray_iff : Stray ids record key ↔
    Body.isExit (Body.ofRecord record) = false ∧ (Entries.field record key).isNull = false ∧
      linkResolves ids none (Entries.field record key) = false := by
  rw [← Bool.not_eq_true, isExit_ofRecord_iff, Json.isNull_eq_false_iff,
    ← Bool.not_eq_true (linkResolves _ _ _), linkResolves_none_iff, not_or]
  constructor
  · intro h
    exact ⟨h.going, h.notNull, h.notEnd, fun ⟨id, hid, e⟩ => h.unknown id hid e⟩
  · rintro ⟨hgoing, hnull, hend, hunknown⟩
    exact ⟨hgoing, hnull, hend, fun id hid e => hunknown ⟨id, hid, e⟩⟩

/-- The steps made of records, in a document of distinct keys. -/
theorem entries_carriedSteps (hids : (Entries.keys records).Nodup)
    (hn : ∀ record ∈ records, (Entries.keys record.2).Nodup) :
    (carriedSteps records).entries = Entries.mapValues Body.ofRecord records := by
  have hbodies :
      (records.map fun record => (record.1, carriedBody (carriedStep record.1 record.2))) =
        Entries.mapValues Body.ofRecord records := by
    refine List.map_congr_left fun record hmem => ?_
    rw [carriedBody_of_record (action_carriedStep record.1 record.2) rfl (hn record hmem)]
  rw [carriedSteps, hbodies, OrderedMap.ofList_entries (by rwa [Entries.keys_mapValues])]

/-- The flow of records under their ids. -/
def flowOfRecords (records : Entries Body) : Json :=
  .obj [("steps", .obj (Entries.mapValues (fun record => .obj (Body.ofRecord record)) records))]

theorem documentOf_carriedSteps (hids : (Entries.keys records).Nodup)
    (hn : ∀ record ∈ records, (Entries.keys record.2).Nodup) :
    documentOf (carriedSteps records) [] = flowOfRecords records := by
  rw [documentOf, StepMap.toJson, entries_carriedSteps hids hn, Entries.mapValues_mapValues]
  rfl

theorem steps_flowOfRecords (records : Entries Body) :
    steps (flowOfRecords records) =
      .ok (records.map fun record => ⟨record.1, none, Body.ofRecord record.2⟩) := by
  have hentries : stepEntries? (flowOfRecords records) =
      some (Entries.mapValues .obj (Entries.mapValues Body.ofRecord records)) := by
    rw [Entries.mapValues_mapValues]
    rfl
  rw [steps_of_entries hentries, flatMap_stepsAt]
  · rw [Entries.mapValues, List.map_map]
    rfl
  · intro entry hmem
    obtain ⟨record, _, rfl⟩ := List.mem_map.1 hmem
    rfl

/-- What is reported of the flow of records, as to references, are their stray references. -/
theorem mem_violationsOf_records_iff (hn : ∀ record ∈ records, (Entries.keys record.2).Nodup) :
    ⟨id, .danglingReference key reference⟩ ∈
        violationsOf (records.map fun record => ⟨record.1, none, Body.ofRecord record.2⟩) ↔
      ∃ record, (id, record) ∈ records ∧ key ∈ referenceKeys ∧
        Stray (Entries.keys records) record key ∧
          (Entries.field record key).display = reference := by
  have hids : (records.map fun record => (⟨record.1, none, Body.ofRecord record.2⟩ : FlowStep)).map
      FlowStep.id = Entries.keys records := List.map_map ..
  rw [mem_violationsOf_iff, hids]
  constructor
  · rintro ⟨step, hstep, rfl, hgoing, hlink⟩
    obtain ⟨record, hrecord, rfl⟩ := List.mem_map.1 hstep
    obtain ⟨hkey, hfilled, hunknown, hreference⟩ := mem_danglingLinks_iff.1 hlink
    have hfield := field_ofRecord (hn record hrecord) hkey
    rw [hfield] at hfilled hunknown hreference
    exact ⟨record.2, hrecord, hkey, stray_iff.2 ⟨hgoing, hfilled, hunknown⟩, hreference⟩
  · rintro ⟨record, hrecord, hkey, hstray, hreference⟩
    obtain ⟨hgoing, hfilled, hunknown⟩ := stray_iff.1 hstray
    refine ⟨_, List.mem_map_of_mem hrecord, rfl, hgoing, mem_danglingLinks_iff.2 ?_⟩
    rw [field_ofRecord (hn _ hrecord) hkey]
    exact ⟨hkey, hfilled, hunknown, hreference⟩

end Flow

/-- **Steps-only recordings pass through.** The flow of a surviving steps-only recording is its
records under their ids, in order, each with its normalized action first, without an id of its own
and with every other field as it is; and a reference is reported of it as naming no step just where
a record that is no exit has one that is neither null nor the end nor an id of the recording. -/
theorem compileDocuments_carries {documents : OrderedMap Json} {document : String × Json}
    {t : Transaction}
    (h : Batch.Survives (documents.entries.map Entry.ofDocument) (Entry.ofDocument document) t)
    (hformat : Format.detect document.2 = .stepsOnly) (hd : document.2.Distinct)
    (options : CompileOptions) :
    ∃ records found, HasRecords document.2 records ∧ (Entries.keys records).Nodup ∧
      (compileDocuments options documents).1.flows.get? t.tcode =
        some (Flow.flowOfRecords records) ∧
      Flow.validate (Flow.flowOfRecords records) = .ok found ∧
      ∀ id key reference, ⟨id, .danglingReference key reference⟩ ∈ found ↔
        ∃ record, (id, record) ∈ records ∧ key ∈ referenceKeys ∧
          Flow.Stray (Entries.keys records) record key ∧
            (Entries.field record key).display = reference := by
  obtain ⟨records, hrecords, hdocument⟩ := Batch.exists_assemble_records
    (Batch.transaction_of_survives h) hformat
    (Batch.ofEntries (documents.entries.map Entry.ofDocument)) options.date
  obtain ⟨hids, hn⟩ := nodup_of_hasRecords hd hrecords
  refine ⟨records, _, hrecords, hids, ?_,
    Flow.validate_of_steps (Flow.steps_flowOfRecords records), ?_⟩
  · rw [compileDocuments_eq, Batch.flow_of_survives h, hdocument,
      Flow.documentOf_carriedSteps hids hn]
  · exact fun id key reference => Flow.mem_violationsOf_records_iff hn

namespace Sample

/-- Records with ids of their own, fields of wrong types, and references to nowhere. -/
def wildRecords : Entries Body :=
  [("fill", [("id", .str "f1"), ("target", .int 7), ("next", .str "run"),
      ("action", .str " Input "), ("controlType", .arr [.null])]),
    ("run", [("next", .str "gone"), ("true", .int 3), ("false", .null)]),
    ("stop", [("next", .str "gone"), ("action", .str "exit")])]

def wild : Json := .obj [("steps", .obj (Entries.mapValues .obj wildRecords))]

def wildDocuments : OrderedMap Json := .ofList [("wild.json", wild), ("create.json", create)]

end Sample

theorem compileDocuments_carries_wild :
    ∃ t, Batch.Survives (Sample.wildDocuments.entries.map Entry.ofDocument)
        (Entry.ofDocument ("wild.json", Sample.wild)) t ∧
      Format.detect Sample.wild = .stepsOnly ∧ Sample.wild.Distinct ∧
      (compileDocuments ⟨"2024-01-01", .null, false, []⟩ Sample.wildDocuments).1.flows.get?
          t.tcode = some (Flow.flowOfRecords Sample.wildRecords) ∧
      ∃ found, Flow.validate (Flow.flowOfRecords Sample.wildRecords) = .ok found ∧
        Flow.dangling found = [⟨"run", .danglingReference "next" "gone"⟩,
          ⟨"run", .danglingReference "true" "3"⟩] ∧
        ∀ id key reference, ⟨id, .danglingReference key reference⟩ ∈ found ↔
          ∃ record, (id, record) ∈ Sample.wildRecords ∧ key ∈ referenceKeys ∧
            Flow.Stray (Entries.keys Sample.wildRecords) record key ∧
              (Entries.field record key).display = reference := by
  have hok : ∃ t, (Entry.ofDocument ("wild.json", Sample.wild)).transaction = .ok t ∧
      t.tcode = "wild" := ⟨_, rfl, rfl⟩
  obtain ⟨t, ht, htcode⟩ := hok
  have hsurvives : Batch.Survives (Sample.wildDocuments.entries.map Entry.ofDocument)
      (Entry.ofDocument ("wild.json", Sample.wild)) t := by
    refine ⟨[], [Entry.ofDocument ("create.json", Sample.create)], rfl, ht, ?_⟩
    intro later hlater u hu
    obtain ⟨create, hcreate, hcode, _⟩ := Sample.accepted_create
    rw [List.mem_singleton.1 hlater, hcreate, Except.ok.injEq] at hu
    rw [← hu, hcode, htcode]
    decide
  have hd : Sample.wild.Distinct := by
    simp [Sample.wild, Sample.wildRecords, Json.Distinct, Json.DistinctFields, Json.DistinctItems,
      Entries.keys, Entries.mapValues]
  have hrecords : HasRecords Sample.wild Sample.wildRecords := ⟨_, rfl, rfl⟩
  obtain ⟨records, found, hhas, _, hflow, hfound, hreported⟩ :=
    compileDocuments_carries hsurvives rfl hd ⟨"2024-01-01", .null, false, []⟩
  cases hhas.unique hrecords
  refine ⟨t, hsurvives, rfl, hd, hflow, found, hfound, ?_, hreported⟩
  cases hfound
  rfl

end ReplayFlow
