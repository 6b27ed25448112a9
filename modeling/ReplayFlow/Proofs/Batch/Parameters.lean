import ReplayFlow.Proofs.Batch.Legacy
import ReplayFlow.Proofs.ParameterKey.Empty

/-!
Parameters of legacy flows. A step that sets a control has a value and the key it
is supplied under, or neither (`parameter_legacyStep`). The flow leaves an empty
key out and writes the value all the same, so a value has a key where the name
shown for its control has a letter or a digit (`compileDocuments_parameters`), and
only there.
-/

namespace ReplayFlow

open Recording

/-! ## Steps -/

/-- A step has no parameter, or a value and the key of the name that is shown for its control. -/
theorem Recording.parameter_legacyStep (e : Event) (index : Nat) (next : String) :
    let step := legacyStep e index next
    (step.paramKey = .null ∧ step.paramValue = .null) ∨
      step.paramKey = .str (ParameterKey.ofName (eventDisplayName e)) ∧
        step.paramValue.isNull = false := by
  unfold legacyStep
  dsimp only
  split
  · exact .inl ⟨rfl, rfl⟩
  · rename_i htyped
    simp only [Bool.or_eq_true, not_or, Bool.not_eq_true] at htyped
    refine .inr ?_
    split
    · exact ⟨rfl, rfl⟩
    · exact ⟨rfl, htyped.1.2⟩

/-- Only the steps of groups set a control. -/
theorem Recording.exists_group_of_set {tcode : String} {events : List Json} {step : Step}
    (h : step ∈ (legacyTransaction tcode events).steps) (hset : step.action = "set") :
    ∃ k group next, (Event.groupsOf events)[k]? = some group ∧
      step = legacyStep group (k + 1) next := by
  rcases legacyTransaction_cases h with ⟨next, rfl⟩ | rfl | hgroup
  · simp [Step.start] at hset
  · exact absurd hset (by decide)
  · exact hgroup

/-! ## Bodies -/

namespace Flow

variable {step : Step}

theorem get?_legacyBody_paramKey (h : step.action = "set") :
    Entries.get? (legacyBody step) "paramKey" =
      if step.paramKey.isGiven then some step.paramKey else none := by
  have hset : parameterFields step = given "paramKey" step.paramKey := by
    simp [parameterFields, h]
  have hother : Entries.get? (conditionFields step) "paramKey" = none :=
    get?_conditionFields (by rw [h]; decide) _
  simp [legacyBody, Entries.get?_append, hset, hother, get?_given, get?_given_of_ne,
    get?_timeoutFields, get?_valueFields, Entries.get?]

theorem get?_legacyBody_paramValue (h : step.action = "set") :
    Entries.get? (legacyBody step) "paramValue" =
      if step.paramValue.isNull then none else some step.paramValue := by
  have hother : Entries.get? (conditionFields step) "paramValue" = none :=
    get?_conditionFields (by rw [h]; decide) _
  have hvalue : Entries.get? (if step.paramValue.isNull then []
      else [("paramValue", step.paramValue)]) "paramValue" =
      if step.paramValue.isNull then none else some step.paramValue := by
    split <;> simp [Entries.get?]
  simp [legacyBody, Entries.get?_append, hvalue, hother, get?_given_of_ne,
    get?_timeoutFields, get?_parameterFields, Entries.get?]

/-- A body has a key where it has a value and the key is not empty. -/
theorem contains_legacyBody_paramKey {name : String} (h : step.action = "set")
    (hparameter : (step.paramKey = .null ∧ step.paramValue = .null) ∨
      step.paramKey = .str (ParameterKey.ofName name) ∧ step.paramValue.isNull = false) :
    (Entries.contains (legacyBody step) "paramKey" = true ↔
      Entries.contains (legacyBody step) "paramValue" = true ∧ ParameterKey.HasLetter name) ∧
    ∀ key, Entries.get? (legacyBody step) "paramKey" = some key →
      key = .str (ParameterKey.ofName name) ∧ ParameterKey.ofName name ≠ "" := by
  rw [Entries.contains, Entries.contains, get?_legacyBody_paramKey h,
    get?_legacyBody_paramValue h, ← ParameterKey.ofName_ne_empty_iff]
  rcases hparameter with ⟨hkey, hvalue⟩ | ⟨hkey, hvalue⟩
  · simp [hkey, hvalue, Json.isGiven, Json.isNull]
  · by_cases hempty : ParameterKey.ofName name = ""
    · simp [hkey, hvalue, Json.isGiven, hempty]
    · simp [hkey, hvalue, Json.isGiven, hempty, eq_comm]

end Flow

/-! ## Flows -/

/-- A step of a legacy flow that sets a control has the parameter of the step of a group. -/
theorem Batch.exists_group_of_bodyAt? {e : Entry} {t : Transaction} (hok : e.transaction = .ok t)
    (hformat : Format.detect e.document = .legacy) (b : Batch) (date : Json) {id : String}
    {body : Body} (hbody : Flow.bodyAt? (Flow.assemble date (b.named t)).document id = some body)
    (hset : Body.hasAction body "set" = true) :
    ∃ k group next name, (Event.groupsOf (legacyEvents e.document))[k]? = some group ∧
      id = "step" ++ toString (k + 1) ∧ (legacyStep group (k + 1) next).action = "set" ∧
      body = Flow.legacyBody { legacyStep group (k + 1) next with aliasName := name } := by
  obtain ⟨code, hsame⟩ := Entry.legacy_of_transaction hok hformat
  obtain ⟨_, hids, more, hdocument⟩ := Batch.assemble_legacy hok hformat b date
  rw [hdocument, Flow.bodyAt?_documentOf, OrderedMap.get?_eq_some_iff,
    Flow.entries_legacySteps (hids ▸ nodup_chainIds _)] at hbody
  obtain ⟨named, hnamed, hentry⟩ := List.mem_map.1 hbody
  obtain ⟨rfl, rfl⟩ := Prod.mk.inj hentry
  obtain ⟨step, hstep, rfl⟩ := List.mem_map.1 hnamed
  obtain ⟨name, hname⟩ := Alias.Naming.nameStep_eq
    (Alias.Naming.ofTransaction (Alias.chooseHeads b.transactions.values) t) step
  rw [hname, Body.hasAction_of_get? (Flow.get?_legacyBody_action _), decide_eq_true_eq] at hset
  rw [hsame.steps] at hstep
  obtain ⟨k, group, next, hgroup, rfl⟩ := exists_group_of_set hstep hset
  refine ⟨k, group, next, name, hgroup, ?_, hset, by rw [hname]⟩
  rw [hname]
  exact id_legacyStep group (k + 1) next

/-- **Parameters of legacy flows.** In the flow of a surviving legacy recording a step that sets a
control has a key for its value where the name shown for the control has a letter or a digit
behind its marker, and only there; it has no key without a value, and no empty one. -/
theorem compileDocuments_parameters {documents : OrderedMap Json} {document : String × Json}
    {t : Transaction}
    (h : Batch.Survives (documents.entries.map Entry.ofDocument) (Entry.ofDocument document) t)
    (hformat : Format.detect document.2 = .legacy) (options : CompileOptions) :
    let result := (compileDocuments options documents).1
    ∃ flow, result.flows.get? t.tcode = some flow ∧
      ∀ id body, Flow.bodyAt? flow id = some body → Body.hasAction body "set" = true →
        ∃ k group, (Event.groupsOf (legacyEvents document.2))[k]? = some group ∧
          id = "step" ++ toString (k + 1) ∧
          (Entries.contains body "paramKey" = true ↔ Entries.contains body "paramValue" = true ∧
            ParameterKey.HasLetter (eventDisplayName group)) ∧
          ∀ key, Entries.get? body "paramKey" = some key →
            key = .str (ParameterKey.ofName (eventDisplayName group)) ∧
              ParameterKey.ofName (eventDisplayName group) ≠ "" := by
  dsimp only
  rw [compileDocuments_eq]
  refine ⟨_, Batch.flow_of_survives h options, fun id body hbody hset => ?_⟩
  obtain ⟨k, group, next, name, hgroup, hid, haction, rfl⟩ := Batch.exists_group_of_bodyAt?
    (Batch.transaction_of_survives h) hformat _ options.date hbody hset
  refine ⟨k, group, hgroup, hid, ?_⟩
  exact Flow.contains_legacyBody_paramKey haction (parameter_legacyStep group (k + 1) next)

/-- A recording of one input into a control that is shown under a name. -/
def Sample.shownAs (name : String) : Json :=
  .obj [("Tcode", .str "va03"), ("Steps", .arr [.obj [("Action", .str "Input"),
    ("ControlId", .str "/app/con[0]/ses[0]/wnd[0]/usr/ctxtF1"), ("ControlName", .str name),
    ("Value", .str "OR")]])]

/-- A batch of that recording. -/
def Sample.batchOf (name : String) : OrderedMap Json := .singleton "shown.json" (shownAs name)

theorem compileDocuments_parameters_named :
    ∃ t, Batch.Survives ((Sample.batchOf "Order type").entries.map Entry.ofDocument)
        (Entry.ofDocument ("shown.json", Sample.shownAs "Order type")) t ∧
      Format.detect (Sample.shownAs "Order type") = .legacy ∧
      let result := (compileDocuments ⟨"2024-01-01", .null, false, []⟩
        (Sample.batchOf "Order type")).1
      ∃ flow, result.flows.get? t.tcode = some flow ∧
        (∀ id body, Flow.bodyAt? flow id = some body → Body.hasAction body "set" = true →
          ∃ k group, (Event.groupsOf (legacyEvents (Sample.shownAs "Order type")))[k]? =
              some group ∧
            id = "step" ++ toString (k + 1) ∧
            (Entries.contains body "paramKey" = true ↔ Entries.contains body "paramValue" = true ∧
              ParameterKey.HasLetter (eventDisplayName group)) ∧
            ∀ key, Entries.get? body "paramKey" = some key →
              key = .str (ParameterKey.ofName (eventDisplayName group)) ∧
                ParameterKey.ofName (eventDisplayName group) ≠ "") ∧
        (Flow.bodyAt? flow "step1").bind (Entries.get? · "paramKey") = some (.str "OrderType") := by
  have hok : ∃ t, (Entry.ofDocument ("shown.json", Sample.shownAs "Order type")).transaction =
      .ok t ∧ t.tcode = "va03" := ⟨_, rfl, rfl⟩
  obtain ⟨t, ht, htcode⟩ := hok
  have hsurvives : Batch.Survives ((Sample.batchOf "Order type").entries.map Entry.ofDocument)
      (Entry.ofDocument ("shown.json", Sample.shownAs "Order type")) t := Batch.survives_alone ht
  have hformat : Format.detect (Sample.shownAs "Order type") = .legacy := rfl
  obtain ⟨flow, hflow, hsteps⟩ :=
    compileDocuments_parameters hsurvives hformat ⟨"2024-01-01", .null, false, []⟩
  have hkey : ((compileDocuments ⟨"2024-01-01", .null, false, []⟩
      (Sample.batchOf "Order type")).1.flows.get? "va03").bind (fun flow =>
        (Flow.bodyAt? flow "step1").bind (Entries.get? · "paramKey")) =
      some (.str "OrderType") := rfl
  rw [← htcode, hflow] at hkey
  exact ⟨t, hsurvives, hformat, flow, hflow, hsteps, hkey⟩

/-- Under a name without a letter the value that was put in is written without a key. -/
theorem compileDocuments_drops_key :
    ∃ t, Batch.Survives ((Sample.batchOf "-").entries.map Entry.ofDocument)
        (Entry.ofDocument ("shown.json", Sample.shownAs "-")) t ∧
      Format.detect (Sample.shownAs "-") = .legacy ∧
      let result := (compileDocuments ⟨"2024-01-01", .null, false, []⟩ (Sample.batchOf "-")).1
      ∃ flow body, result.flows.get? t.tcode = some flow ∧
        Flow.bodyAt? flow "step1" = some body ∧ Body.hasAction body "set" = true ∧
        Entries.get? body "paramValue" = some (.str "OR") ∧
        Entries.get? body "paramKey" = none := by
  have hok : ∃ t, (Entry.ofDocument ("shown.json", Sample.shownAs "-")).transaction = .ok t ∧
      t.tcode = "va03" := ⟨_, rfl, rfl⟩
  obtain ⟨t, ht, htcode⟩ := hok
  refine ⟨t, Batch.survives_alone ht, rfl, ?_⟩
  rw [htcode]
  exact ⟨_, _, rfl, rfl, rfl, rfl, rfl⟩

end ReplayFlow
