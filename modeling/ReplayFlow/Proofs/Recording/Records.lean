import ReplayFlow.Flow.Body
import ReplayFlow.Proofs.Json.Distinct
import ReplayFlow.Proofs.Recording.Refusal

/-!
Recordings that bring their steps along. A steps-only document of objects is
accepted, with one step for each of them in their order (`normalize_records`).
An accepted contextual document is its contexts with their records, and its
transaction a start before the steps of all contexts
(`exists_contexts_of_normalize`).
-/

namespace ReplayFlow

namespace Transaction

theorem steps_addSteps (t : Transaction) (steps : List Step) :
    (t.addSteps steps).steps = t.steps ++ steps := by
  induction steps generalizing t with
  | nil => simp [addSteps]
  | cons step rest ih =>
    have hrest := ih (t.addStep step none)
    rw [steps_addStep, List.append_assoc] at hrest
    exact hrest

end Transaction

namespace Recording

variable {t u : Transaction} {document : Json} {tcode : String}
  {make : String → Entries Json → Step} {contexts : Entries (Entries Body)}

/-! ## Records -/

/-- Objects are taken in as they come. -/
theorem addRecords_objects (make : String → Entries Json → Step) (t : Transaction)
    (records : Entries Body) :
    addRecords make t (Entries.mapValues .obj records) =
      .ok (t.addSteps (records.map fun record => make record.1 record.2)) := by
  induction records generalizing t with
  | nil => rfl
  | cons record rest ih => exact ih (t.addStep (make record.1 record.2) none)

/-! ## Steps-only documents -/

/-- A steps-only document of objects is accepted, with a step for each of them. -/
theorem normalize_records {fields : Entries Json} {records : Entries Body}
    (hformat : Format.detect (.obj fields) = .stepsOnly)
    (hsteps : Entries.field fields "steps" = .obj (Entries.mapValues .obj records))
    (tcode : String) :
    ∃ t, (Recording.ofDocument (.obj fields) tcode).normalize = .ok t ∧
      t.tcode = lowercase tcode ∧ t.format = .stepsOnly ∧
        t.steps = records.map fun record => carriedStep record.1 record.2 := by
  have hread := addRecords_objects carriedStep
    { tcode := lowercase tcode, format := .stepsOnly } records
  have hnormalize : (Recording.ofDocument (.obj fields) tcode).normalize =
      addRecords carriedStep { tcode := lowercase tcode, format := .stepsOnly }
        (Entries.mapValues .obj records) := by
    simp [normalize, ofDocument, hformat, normalizeStepsOnly, hsteps]
  have hframe := Transaction.sameFrame_addSteps
    { tcode := lowercase tcode, format := .stepsOnly }
    (records.map fun record => carriedStep record.1 record.2)
  refine ⟨_, hnormalize.trans hread, hframe.tcode, hframe.format, ?_⟩
  rw [Transaction.steps_addSteps, List.nil_append]

/-- A steps-only document whose steps are the given records under their ids. -/
def HasRecords (document : Json) (records : Entries Body) : Prop :=
  ∃ fields, document = .obj fields ∧
    Entries.field fields "steps" = .obj (Entries.mapValues .obj records)

/-- A document has its records only in one way. -/
theorem HasRecords.unique {records other : Entries Body} (h : HasRecords document records)
    (hother : HasRecords document other) : records = other := by
  obtain ⟨fields, rfl, hsteps⟩ := h
  obtain ⟨_, hfields, hmore⟩ := hother
  rw [← Json.obj.inj hfields, hsteps, Json.obj.injEq] at hmore
  exact (Entries.mapValues_inj fun _ _ => Json.obj.inj).1 hmore

/-- An accepted steps-only document holds objects. -/
theorem exists_records_of_normalize (hformat : Format.detect document = .stepsOnly)
    (h : (Recording.ofDocument document tcode).normalize = .ok t) :
    ∃ (fields : Entries Json) (records : Entries Body), document = .obj fields ∧
      Entries.field fields "steps" = .obj (Entries.mapValues .obj records) := by
  obtain ⟨fields, rfl⟩ := eq_obj_of_detect (by rw [hformat]; decide)
  have hread : normalizeStepsOnly (.obj fields) tcode = .ok t := by
    simpa [normalize, ofDocument, hformat] using h
  unfold normalizeStepsOnly at hread
  dsimp only at hread
  split at hread
  · rename_i hsteps
    obtain ⟨records, rfl, _⟩ := exists_records hread
    exact ⟨fields, records, rfl, hsteps⟩
  · cases hread

/-- Names are distinct in a document with distinct keys, and so are the fields of each record. -/
theorem nodup_of_hasRecords {records : Entries Body} (hd : document.Distinct)
    (h : HasRecords document records) :
    (Entries.keys records).Nodup ∧ ∀ record ∈ records, (Entries.keys record.2).Nodup := by
  obtain ⟨fields, rfl, hsteps⟩ := h
  have hwritten := Json.distinct_field hd "steps"
  rw [hsteps] at hwritten
  obtain ⟨hids, hrecords⟩ := Json.distinct_of_mem_objects hwritten
  exact ⟨hids, fun record hmem => (Json.distinct_obj_iff.1 (hrecords record hmem)).1⟩

/-! ## Contextual documents -/

theorem eq_of_contextsOf? {entries : Entries Json} {found : Entries (Entries Json)}
    (h : contextsOf? entries = some found) : entries = Entries.mapValues .obj found := by
  fun_induction contextsOf? entries generalizing found with
  | case1 =>
    cases h
    rfl
  | case2 context steps rest ih =>
    obtain ⟨more, hmore, rfl⟩ := Option.map_eq_some_iff.1 h
    rw [ih hmore]
    rfl
  | case3 => cases h

/-- A document whose contexts are the given ones, each with its records under their names. One
without steps has none. -/
def HasContexts (document : Json) (contexts : Entries (Entries Body)) : Prop :=
  ∃ fields, document = .obj fields ∧ (Entries.field fields "steps").orElse (.obj []) =
    .obj (Entries.mapValues (fun records => .obj (Entries.mapValues .obj records)) contexts)

/-- A document has its contexts only in one way. -/
theorem HasContexts.unique {other : Entries (Entries Body)} (h : HasContexts document contexts)
    (hother : HasContexts document other) : contexts = other := by
  obtain ⟨fields, rfl, hsteps⟩ := h
  obtain ⟨_, hfields, hmore⟩ := hother
  rw [← Json.obj.inj hfields, hsteps, Json.obj.injEq] at hmore
  refine (Entries.mapValues_inj fun records more e => ?_).1 hmore
  exact (Entries.mapValues_inj fun _ _ => Json.obj.inj).1 (Json.obj.inj e)

/-- The ids of the steps of contexts, in order. -/
def stepIds (contexts : Entries (Entries Body)) : List String :=
  contexts.flatMap fun context =>
    (Entries.keys context.2).map fun name => context.1 ++ "." ++ name

/-- The step that a contextual flow starts with. -/
def firstId (contexts : Entries (Entries Body)) : String := (stepIds contexts).head?.getD endStep

theorem firstStep_eq (contexts : Entries (Entries Body)) :
    firstStep (Entries.mapValues (Entries.mapValues .obj) contexts) = firstId contexts := by
  induction contexts with
  | nil => rfl
  | cons context rest ih =>
    obtain ⟨context, records⟩ := context
    cases records with
    | nil => exact ih
    | cons record more => rfl

/-- **An accepted contextual document** is its contexts, and its transaction has their steps
behind a start. -/
theorem exists_contexts_of_normalize (hformat : Format.detect document = .contextual)
    (h : (Recording.ofDocument document tcode).normalize = .ok t) :
    ∃ contexts, HasContexts document contexts ∧ startStep ∉ Entries.keys contexts ∧
      t.format = .contextual ∧
        t.steps = Step.start (firstId contexts) :: contextSteps contexts := by
  obtain ⟨fields, rfl⟩ := eq_obj_of_detect (by rw [hformat]; decide)
  have hread : normalizeContextual (.obj fields) tcode = .ok t := by
    simpa [normalize, ofDocument, hformat] using h
  unfold normalizeContextual at hread
  dsimp only at hread
  split at hread
  · split at hread
    · rename_i hsteps
      split at hread
      · rename_i hfound
        split at hread
        · cases hread
        · rename_i hreserved
          obtain ⟨contexts, rfl, rfl⟩ := exists_contexts hread
          rw [eq_of_contextsOf? hfound, Entries.mapValues_mapValues] at hsteps
          refine ⟨contexts, ⟨fields, rfl, hsteps⟩, ?_, ?_, ?_⟩
          · rw [Bool.not_eq_true, Entries.contains, Option.isSome_eq_false_iff,
              Option.isNone_iff_eq_none, Entries.get?_eq_none_iff, Entries.keys_mapValues]
              at hreserved
            exact hreserved
          · rw [(Transaction.sameFrame_addSteps _ _).format,
              (Transaction.sameFrame_addStep _ _ _).format]
          · rw [Transaction.steps_addSteps, Transaction.steps_addStep, firstStep_eq]
            rfl
      · cases hread
    · cases hread
  · cases hread

/-- Names are distinct in a document with distinct keys, on all three levels. -/
theorem nodup_of_distinct (hd : document.Distinct) (h : HasContexts document contexts) :
    (Entries.keys contexts).Nodup ∧ ∀ context ∈ contexts, (Entries.keys context.2).Nodup ∧
      ∀ record ∈ context.2, (Entries.keys record.2).Nodup := by
  obtain ⟨fields, rfl, hsteps⟩ := h
  have hwritten : Json.Distinct (.obj (Entries.mapValues .obj
      (Entries.mapValues (Entries.mapValues Json.obj) contexts))) := by
    rw [Entries.mapValues_mapValues, ← hsteps]
    unfold Json.orElse
    split
    · exact Json.distinct_field hd "steps"
    · exact ⟨List.nodup_nil, trivial⟩
  obtain ⟨hcontexts, hrecords⟩ := Json.distinct_of_mem_objects hwritten
  rw [Entries.keys_mapValues] at hcontexts
  refine ⟨hcontexts, fun context hcontext => ?_⟩
  obtain ⟨hnames, hfields⟩ := Json.distinct_of_mem_objects
    (hrecords _ (List.mem_map_of_mem hcontext))
  exact ⟨hnames, fun record hrecord => (Json.distinct_obj_iff.1 (hfields record hrecord)).1⟩

end Recording

end ReplayFlow
