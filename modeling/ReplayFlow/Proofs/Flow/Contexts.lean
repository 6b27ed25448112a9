import ReplayFlow.Proofs.Flow.Carried
import ReplayFlow.Proofs.Flow.Checks
import ReplayFlow.Proofs.Recording.Records

/-!
Contextual flows. The steps of a context come in a row, so each context is put
together again where it stood (`entries_foldl_add`). A step comes back under its
name where it has one; a step whose name is empty goes by its id, which may be the
name of another step (`assemble_keeps_contexts`, `assemble_merges_unnamed`).
-/

namespace ReplayFlow.Flow

open Recording

variable {contexts : Entries (Entries Body)} {records : Entries Body} {g : Grouped}
  {context name : String} {record : Body}

/-! ## One context -/

/-- The name that a step of a context has in a flow. -/
def keptName (context name : String) : String := if name = "" then context ++ "." else name

/-- The steps of a context under the names they have in a flow. -/
def kept (context : String) (records : Entries Body) : Entries Body :=
  records.map fun record => (keptName context record.1, Body.ofRecord record.2)

theorem nameInContext_contextStep (context name : String) (record : Body) :
    nameInContext (contextStep context name record) = keptName context name := by
  have hname : (contextStep context name record).name = some name := rfl
  have hid : (contextStep context name record).id = context ++ "." ++ name := rfl
  rw [nameInContext, hname, hid, keptName]
  by_cases hempty : name = "" <;> simp [hempty]

theorem carriedBody_contextStep (hn : (Entries.keys record).Nodup) :
    carriedBody (contextStep context name record) = Body.ofRecord record :=
  carriedBody_of_record (action_contextStep context name record) rfl hn

theorem add_contextStep (g : Grouped) (hn : (Entries.keys record).Nodup) :
    g.add (contextStep context name record) =
      ⟨g.free, g.contexts.insert context (((g.contexts.get? context).getD ∅).insert
        (keptName context name) (Body.ofRecord record))⟩ := by
  have hcontext : (contextStep context name record).context = some context := rfl
  simp only [Grouped.add, hcontext, nameInContext_contextStep, carriedBody_contextStep hn]

/-- Once a context is there, its steps are all added to it. -/
theorem foldl_add_records (free : StepMap) (placed : OrderedMap StepMap) (steps : StepMap)
    (hn : ∀ record ∈ records, (Entries.keys record.2).Nodup) :
    (records.map fun record => contextStep context record.1 record.2).foldl Grouped.add
        ⟨free, placed.insert context steps⟩ =
      ⟨free, placed.insert context
        ((kept context records).foldl (fun acc entry => acc.insert entry.1 entry.2) steps)⟩ := by
  induction records generalizing steps with
  | nil => rfl
  | cons record rest ih =>
    have hadd : Grouped.add ⟨free, placed.insert context steps⟩
        (contextStep context record.1 record.2) =
        ⟨free, placed.insert context
          (steps.insert (keptName context record.1) (Body.ofRecord record.2))⟩ := by
      rw [add_contextStep _ (hn record (List.mem_cons_self ..))]
      simp only [OrderedMap.get?_insert, if_true, Option.getD_some, OrderedMap.insert_insert]
    rw [List.map_cons, List.foldl_cons, hadd,
      ih _ fun other hother => hn other (List.mem_cons_of_mem _ hother)]
    rfl

theorem foldl_add_context (hfresh : context ∉ g.contexts.keys) (hne : records ≠ [])
    (hn : ∀ record ∈ records, (Entries.keys record.2).Nodup) :
    (records.map fun record => contextStep context record.1 record.2).foldl Grouped.add g =
      ⟨g.free, g.contexts.insert context (.ofList (kept context records))⟩ := by
  obtain ⟨first, rest, rfl⟩ := List.exists_cons_of_ne_nil hne
  have hnone : g.contexts.get? context = none := OrderedMap.get?_eq_none_iff.2 hfresh
  rw [List.map_cons, List.foldl_cons, add_contextStep g (hn first (List.mem_cons_self ..)), hnone,
    foldl_add_records _ _ _ fun other hother => hn other (List.mem_cons_of_mem _ hother),
    OrderedMap.ofList_eq_foldl]
  rfl

/-- A flow keeps the steps of a context as they are just where each has a name. -/
theorem ofList_kept_iff (hn : (Entries.keys records).Nodup) (context : String) :
    Entries.ofList (kept context records) = Entries.mapValues Body.ofRecord records ↔
      "" ∉ Entries.keys records := by
  constructor
  · intro hlossless hempty
    have hmem : "" ∈ Entries.keys (Entries.ofList (kept context records)) := by
      rw [hlossless, Entries.keys_mapValues]
      exact hempty
    rw [Entries.keys_ofList, List.mem_eraseDups] at hmem
    obtain ⟨entry, hentry, hname⟩ := List.mem_map.1 hmem
    obtain ⟨record, _, rfl⟩ := List.mem_map.1 hentry
    by_cases hrecord : record.1 = "" <;> simp [keptName, hrecord] at hname
  · intro hnamed
    have hkept : kept context records = Entries.mapValues Body.ofRecord records := by
      refine List.map_congr_left fun record hrecord => ?_
      have hname : record.1 ≠ "" := fun e => hnamed (e ▸ List.mem_map_of_mem hrecord)
      rw [keptName, if_neg hname]
    rw [hkept, Entries.ofList_of_nodup (by rwa [Entries.keys_mapValues])]

/-! ## All contexts -/

/-- The contexts of a flow, in order: those that have steps. -/
def groups (contexts : Entries (Entries Body)) : Entries StepMap :=
  (contexts.filter fun context => !context.2.isEmpty).map fun context =>
    (context.1, .ofList (kept context.1 context.2))

theorem keys_groups_sublist (contexts : Entries (Entries Body)) :
    (Entries.keys (groups contexts)).Sublist (Entries.keys contexts) := by
  have hkeys : Entries.keys (groups contexts) =
      Entries.keys (contexts.filter fun context => !context.2.isEmpty) := by
    rw [groups, Entries.keys, List.map_map]
    rfl
  rw [hkeys]
  exact List.filter_sublist.map _

/-- The contexts with steps are appended in their order. -/
theorem entries_foldl_add (hkeys : (Entries.keys contexts).Nodup)
    (hfresh : ∀ context ∈ contexts, context.1 ∉ g.contexts.keys)
    (hn : ∀ context ∈ contexts, ∀ record ∈ context.2, (Entries.keys record.2).Nodup) :
    ((Recording.contextSteps contexts).foldl Grouped.add g).free = g.free ∧
      ((Recording.contextSteps contexts).foldl Grouped.add g).contexts.entries =
        g.contexts.entries ++ groups contexts := by
  induction contexts generalizing g with
  | nil => simp [Recording.contextSteps, groups]
  | cons first rest ih =>
    obtain ⟨hnew, hrest⟩ := List.nodup_cons.1 hkeys
    have hlater := fun context hcontext => hfresh context (List.mem_cons_of_mem first hcontext)
    have hbodies := fun context hcontext => hn context (List.mem_cons_of_mem first hcontext)
    rw [Recording.contextSteps, List.flatMap_cons, List.foldl_append]
    by_cases hempty : first.2 = []
    · have hgroups : groups (first :: rest) = groups rest := by simp [groups, hempty]
      rw [hempty, hgroups]
      exact ih hrest hlater hbodies
    · have hfirst := hfresh first (List.mem_cons_self ..)
      have hgroups : groups (first :: rest) =
          (first.1, .ofList (kept first.1 first.2)) :: groups rest := by simp [groups, hempty]
      rw [foldl_add_context hfirst hempty (hn first (List.mem_cons_self ..)), hgroups]
      have hplaced : ∀ context ∈ rest, context.1 ∉
          (g.contexts.insert first.1 (.ofList (kept first.1 first.2))).keys := by
        intro context hcontext hmem
        rw [OrderedMap.keys_insert, if_neg hfirst, List.mem_append, List.mem_singleton] at hmem
        rcases hmem with hmem | e
        · exact hlater context hcontext hmem
        · exact hnew (e ▸ List.mem_map_of_mem hcontext)
      obtain ⟨hfree, hcontexts⟩ := ih
        (g := ⟨g.free, g.contexts.insert first.1 (.ofList (kept first.1 first.2))⟩)
        hrest hplaced hbodies
      rw [OrderedMap.entries_insert_of_not_mem hfirst, List.append_assoc] at hcontexts
      exact ⟨hfree, hcontexts⟩

/-! ## The flow -/

/-- What a contextual flow has for its start. -/
def startBody (contexts : Entries (Entries Body)) : Body :=
  freeBody (Step.start (firstId contexts))

/-- The steps of a contextual flow: its start, and each context that has steps. -/
def contextualEntries (contexts : Entries (Entries Body)) : Entries Json :=
  (startStep, .obj (startBody contexts)) :: Entries.mapValues StepMap.toJson (groups contexts)

variable {document : Json} {tcode : String} {t : Transaction}

/-- The steps of a contextual flow, from its transaction. -/
theorem stepEntries?_contextual (hformat : t.format = .contextual)
    (hsteps : t.steps = Step.start (firstId contexts) :: Recording.contextSteps contexts)
    (hkeys : (Entries.keys contexts).Nodup) (hstart : startStep ∉ Entries.keys contexts)
    (hn : ∀ context ∈ contexts, ∀ record ∈ context.2, (Entries.keys record.2).Nodup)
    (created : Json) :
    stepEntries? (assemble created t).document = some (contextualEntries contexts) := by
  have hdocument : stepEntries? (assembleContextual t).document = some (Entries.insertAll
      (Entries.mapValues .obj (t.steps.foldl Grouped.add {}).free.entries)
      (Entries.mapValues StepMap.toJson (t.steps.foldl Grouped.add {}).contexts.entries)) := rfl
  have hfirst : Grouped.add {} (Step.start (firstId contexts)) =
      ⟨.singleton startStep (startBody contexts), ∅⟩ := rfl
  have hstarted : ∀ context ∈ contexts, context.1 ∉ (∅ : OrderedMap StepMap).keys :=
    fun _ _ => List.not_mem_nil
  obtain ⟨hfree, hcontexts⟩ := entries_foldl_add
    (g := ⟨.singleton startStep (startBody contexts), ∅⟩) hkeys hstarted hn
  have hassembled : assemble created t = assembleContextual t := by rw [assemble, hformat]
  rw [hassembled, hdocument, hsteps, List.foldl_cons, hfirst, hfree, hcontexts]
  have hgroups := keys_groups_sublist contexts
  refine congrArg some (Entries.insertAll_of_disjoint _ _ ?_)
  rw [Entries.keys_append, Entries.keys_mapValues, Entries.keys_mapValues]
  exact List.nodup_cons.2 ⟨fun hmem => hstart (hgroups.subset hmem), hgroups.nodup hkeys⟩

/-- The contexts that have steps as they are written: each record under its own name, without
its id and with its action normalized. -/
def faithfulGroups (contexts : Entries (Entries Body)) : Entries Json :=
  (contexts.filter fun context => !context.2.isEmpty).map fun context =>
    (context.1, .obj (Entries.mapValues .obj (Entries.mapValues Body.ofRecord context.2)))

/-- The steps of a flow that keeps every context as it is written. -/
def faithfulEntries (contexts : Entries (Entries Body)) : Entries Json :=
  (startStep, .obj (startBody contexts)) :: faithfulGroups contexts

/-- What the flow has for the contexts is what they are, just where each step has a name. -/
theorem contextualEntries_eq_iff
    (hn : ∀ context ∈ contexts, (Entries.keys context.2).Nodup) :
    contextualEntries contexts = faithfulEntries contexts ↔
      ∀ context ∈ contexts, "" ∉ Entries.keys context.2 := by
  have hcontext : ∀ context ∈ contexts,
      ((context.1, StepMap.toJson (.ofList (kept context.1 context.2))) =
        (context.1, Json.obj (Entries.mapValues .obj (Entries.mapValues Body.ofRecord
          context.2))) ↔ "" ∉ Entries.keys context.2) := by
    intro context hmem
    rw [← ofList_kept_iff (hn context hmem) context.1, Prod.mk.injEq, StepMap.toJson,
      Json.obj.injEq, Entries.mapValues_inj fun _ _ => Json.obj.inj]
    exact and_iff_right rfl
  rw [contextualEntries, faithfulEntries, faithfulGroups, groups, Entries.mapValues,
    List.map_map, List.cons_inj_right, List.map_inj_left]
  constructor
  · intro h context hmem
    by_cases hempty : context.2 = []
    · rw [hempty]
      exact List.not_mem_nil
    · exact (hcontext context hmem).1 (h context (List.mem_filter.2 ⟨hmem, by simp [hempty]⟩))
  · intro h context hmem
    have hmem := (List.mem_filter.1 hmem).1
    exact (hcontext context hmem).2 (h context hmem)

/-- The flow of an accepted contextual document, from its contexts. -/
theorem exists_contextualEntries (hformat : Format.detect document = .contextual)
    (hd : document.Distinct) (h : (Recording.ofDocument document tcode).normalize = .ok t)
    (created : Json) :
    ∃ contexts, HasContexts document contexts ∧
      (∀ context ∈ contexts, (Entries.keys context.2).Nodup) ∧
      stepEntries? (assemble created t).document = some (contextualEntries contexts) := by
  obtain ⟨contexts, hcontexts, hstart, htformat, hsteps⟩ := exists_contexts_of_normalize hformat h
  obtain ⟨hkeys, hnames⟩ := nodup_of_distinct hd hcontexts
  have hbodies := fun context hmem => (hnames context hmem).2
  exact ⟨contexts, hcontexts, fun context hmem => (hnames context hmem).1,
    stepEntries?_contextual htformat hsteps hkeys hstart hbodies created⟩

/-- **Contextual recordings pass through.** The flow of an accepted contextual document has its
start and then, in order, each context that has steps; it keeps them all as they are just where
no step has an empty name. -/
theorem assemble_keeps_contexts (hformat : Format.detect document = .contextual)
    (hd : document.Distinct) (h : (Recording.ofDocument document tcode).normalize = .ok t)
    (created : Json) :
    ∃ contexts, HasContexts document contexts ∧
      stepEntries? (assemble created t).document = some (contextualEntries contexts) ∧
      (contextualEntries contexts = faithfulEntries contexts ↔
        ∀ context ∈ contexts, "" ∉ Entries.keys context.2) := by
  obtain ⟨contexts, hcontexts, hnames, hentries⟩ := exists_contextualEntries hformat hd h created
  exact ⟨contexts, hcontexts, hentries, contextualEntries_eq_iff hnames⟩

/-- Contexts with steps and without, and a record with an id of its own. -/
def pairedContexts : Entries (Entries Body) :=
  [("order", [
      ("fill", [("id", .str "s1"), ("value", .str "OR"), ("action", .str " Input "),
        ("next", .str "end.order")]),
      ("end.order", [("action", .str "click"), ("next", .str "done.stop")])]),
    ("spare", []),
    ("done", [("stop", [("action", .str "exit")])])]

/-- A contextual document of given contexts. -/
def contextualDocument (contexts : Entries (Entries Body)) : Json :=
  .obj [("$meta", .obj [("tcode", .str "zc")]), ("steps", .obj
    (Entries.mapValues (fun records => .obj (Entries.mapValues .obj records)) contexts))]

theorem distinct_paired : (contextualDocument pairedContexts).Distinct := by
  simp [contextualDocument, pairedContexts, Json.Distinct, Json.DistinctFields, Entries.keys,
    Entries.mapValues]

theorem normalize_paired :
    ∃ t, (Recording.ofDocument (contextualDocument pairedContexts) "zc").normalize = .ok t :=
  ⟨_, rfl⟩

theorem assemble_keeps_contexts_paired :
    Format.detect (contextualDocument pairedContexts) = .contextual ∧
      (contextualDocument pairedContexts).Distinct ∧
      ∃ t, (Recording.ofDocument (contextualDocument pairedContexts) "zc").normalize = .ok t ∧
        stepEntries? (assemble .null t).document = some (faithfulEntries pairedContexts) := by
  obtain ⟨t, ht⟩ := normalize_paired
  have hcontexts : HasContexts (contextualDocument pairedContexts) pairedContexts := ⟨_, rfl, rfl⟩
  obtain ⟨contexts, hfound, hentries, hfaithful⟩ :=
    assemble_keeps_contexts rfl distinct_paired ht .null
  cases hfound.unique hcontexts
  rw [hfaithful.2 (by simp [pairedContexts, Entries.keys])] at hentries
  exact ⟨rfl, distinct_paired, t, ht, hentries⟩

/-- A step with an empty name beside one that is named like its id. -/
def unnamedContexts : Entries (Entries Body) :=
  [("ctx", [("", [("action", .str "click"), ("next", .str "end")]),
    ("ctx.", [("action", .str "exit")])])]

/-- The flow has one step for two of the document. -/
theorem assemble_merges_unnamed :
    Format.detect (contextualDocument unnamedContexts) = .contextual ∧
      (contextualDocument unnamedContexts).Distinct ∧
      HasContexts (contextualDocument unnamedContexts) unnamedContexts ∧
      ∃ t, (Recording.ofDocument (contextualDocument unnamedContexts) "zc").normalize = .ok t ∧
        stepEntries? (assemble .null t).document =
          some [("startTransaction", .obj (startBody unnamedContexts)),
            ("ctx", .obj [("ctx.", .obj [("action", .str "exit")])])] ∧
        stepEntries? (assemble .null t).document ≠ some (faithfulEntries unnamedContexts) := by
  have hd : (contextualDocument unnamedContexts).Distinct := by
    simp [contextualDocument, unnamedContexts, Json.Distinct, Json.DistinctFields, Entries.keys,
      Entries.mapValues]
  refine ⟨rfl, hd, ⟨_, rfl, rfl⟩, _, rfl, rfl, ?_⟩
  intro hfaithful
  have hmerged : [("startTransaction", Json.obj (startBody unnamedContexts)),
      ("ctx", .obj [("ctx.", .obj [("action", .str "exit")])])] = faithfulEntries unnamedContexts :=
    Option.some.inj hfaithful
  simp [faithfulEntries, faithfulGroups, unnamedContexts, Entries.mapValues] at hmerged

end ReplayFlow.Flow
