import ReplayFlow.Proofs.Batch.Directory
import ReplayFlow.Proofs.Service.Containment
import ReplayFlow.Proofs.Storage.Document

/-!
What the service stores is what it reads. A flow that was saved is the flow that
is answered (`perform_readFlow_of_saveFlow`), and the alias table written with a
batch is the one that flows are validated with (`storedTable_of_writeInto`).
-/

namespace ReplayFlow

/-! ## Alias tables -/

namespace AliasTable

theorem exact_texts (m : OrderedMap String) :
    Json.Exact (.obj (m.mapValues Json.str).entries) ∧
      Json.Distinct (.obj (m.mapValues Json.str).entries) := by
  have hvalue : ∀ field ∈ (m.mapValues Json.str).entries, ∃ text, field.2 = .str text := by
    intro field hmem
    obtain ⟨entry, _, rfl⟩ := List.mem_map.1 hmem
    exact ⟨entry.2, rfl⟩
  refine ⟨Json.exact_obj_iff.2 fun field hmem => ?_, Json.distinct_obj_iff.2
    ⟨(m.mapValues Json.str).nodup, fun field hmem => ?_⟩⟩
  all_goals
    obtain ⟨text, htext⟩ := hvalue field hmem
    rw [htext]
    exact trivial

theorem exact_nested (d : OrderedMap (OrderedMap String)) :
    Json.Exact (nestedObject (d.mapValues (OrderedMap.mapValues Json.str))) ∧
      Json.Distinct (nestedObject (d.mapValues (OrderedMap.mapValues Json.str))) := by
  have hvalue : ∀ field ∈ Entries.mapValues (fun inner : OrderedMap Json => Json.obj inner.entries)
      (d.mapValues (OrderedMap.mapValues Json.str)).entries,
      ∃ m : OrderedMap String, field.2 = .obj (m.mapValues Json.str).entries := by
    intro field hmem
    obtain ⟨inner, hinner, rfl⟩ := List.mem_map.1 hmem
    obtain ⟨entry, _, rfl⟩ := List.mem_map.1 hinner
    exact ⟨entry.2, rfl⟩
  refine ⟨Json.exact_obj_iff.2 fun field hmem => ?_, Json.distinct_obj_iff.2
    ⟨?_, fun field hmem => ?_⟩⟩
  · obtain ⟨m, hm⟩ := hvalue field hmem
    exact hm ▸ (exact_texts m).1
  · rw [Entries.keys_mapValues]
    exact (d.mapValues (OrderedMap.mapValues Json.str)).nodup
  · obtain ⟨m, hm⟩ := hvalue field hmem
    exact hm ▸ (exact_texts m).2

/-- The document of a table made from recordings is exact, with distinct keys. -/
theorem exact_toJson_stored (t : AliasTable String) :
    Json.Exact t.stored.toJson ∧ Json.Distinct t.stored.toJson := by
  have hheads := exact_texts t.heads
  have hspaces := exact_nested t.spaces
  have hconflicts := exact_nested t.conflicts
  have hfields : t.stored.toJson = .obj [("prefixes", .obj (t.heads.mapValues Json.str).entries),
      ("aliases", nestedObject (t.spaces.mapValues (OrderedMap.mapValues Json.str))),
      ("conflicts", nestedObject (t.conflicts.mapValues (OrderedMap.mapValues Json.str)))] := rfl
  rw [hfields]
  exact ⟨⟨hheads.1, hspaces.1, hconflicts.1, trivial⟩,
    by simp [Entries.keys], hheads.2, hspaces.2, hconflicts.2, trivial⟩

end AliasTable

namespace Service

theorem Handler.ofExcept_ok_bind {α β : Type} (value : α) (next : α → Handler β) :
    Handler.ofExcept (.ok value) >>= next = next value := rfl

/-- What is answered after a step has been done. -/
theorem Handler.exists_of_reply {α : Type} {outcome : Except Fault α} {next : α → Handler Reply}
    {reply : Reply} (h : (Handler.ofExcept outcome >>= next).reply.outcome = .ok reply) :
    ∃ given, outcome = .ok given := by
  cases outcome with
  | error fault => cases h
  | ok given => exact ⟨given, rfl⟩

theorem ofExcept_ok_bind {α β : Type} (value : α) (next : α → Run β) :
    Run.ofExcept (.ok value) >>= next = next value := rfl

namespace Site

variable {s : Site} {t t' : FileTree} {root path place : List String} {tcode : String}
  {bytes : List UInt8} {fields : Entries Json}

theorem resolve_eq_ok {directory : String} (hhere : ∀ c ∈ s.here, Path.IsName c)
    (h : s.resolve directory = .ok root) :
    root = Path.normalize (s.walkTo directory) ∧ ∀ c ∈ root, Path.IsName c := by
  unfold resolve Path.locate at h
  split at h
  · cases h
  · rename_i hnull
    obtain rfl := Except.ok.inj h
    exact ⟨rfl, fun c hc => Path.isName_of_mem_resolve hhere (Bool.eq_false_iff.2 hnull) hc⟩

/-- The path of a flow has a name for every component. -/
theorem isName_of_flowPath (hhere : ∀ c ∈ s.here, Path.IsName c)
    (hpath : s.flowPath tcode = .ok path) : ∀ c ∈ path, Path.IsName c := by
  cases hresolve : s.resolve s.settings.outputDirectory with
  | error fault =>
    rw [flowPath, hresolve] at hpath
    cases hpath
  | ok root =>
    have hroot := (resolve_eq_ok hhere hresolve).2
    obtain ⟨hnull, rfl, _⟩ := (flowPath_eq_ok_iff hroot hresolve).1 hpath
    exact fun c hc => Path.isName_of_mem_resolve hroot hnull hc

/-! ## Flows -/

theorem readFlow_of_walk (hpath : s.flowPath tcode = .ok path)
    (hwalk : t.walk path = .ok (path, .file bytes))
    (hparse : Recording.parseBytes bytes tcode = .ok (.obj fields)) :
    s.readFlow t tcode = pure fields := by
  have hexists : t.exists? path = .ok true := FileTree.exists?_eq_true_iff.2 ⟨_, _, hwalk⟩
  have hread : t.read path = .ok bytes := by rw [FileTree.read, hwalk]
  rw [readFlow, hpath, Handler.ofPath_ok_bind, hexists, hread]
  simp only [Storage.atPath, Handler.ofExcept_ok_bind, if_true, hparse]

theorem readFlow_of_saveFlow (hhere : ∀ c ∈ s.here, Path.IsName c) {body : FlowBody}
    (hbody : body.document = .obj fields) (hexact : Json.Exact (.obj fields))
    (hdistinct : Json.Distinct (.obj fields)) {answer : Json}
    (hsaved : (s.saveFlow t tcode body).2.reply.outcome = .ok (.ok answer)) :
    s.readFlow (s.saveFlow t tcode body).1 tcode = pure fields := by
  unfold saveFlow at hsaved ⊢
  cases hpath : s.flowPath tcode with
  | error fault =>
    rw [hpath] at hsaved
    cases hsaved
  | ok path =>
    rw [hpath] at hsaved
    dsimp only at hsaved ⊢
    have hnames := isName_of_flowPath hhere hpath
    have hbefore : ∀ c ∈ path.dropLast, Path.IsName c :=
      fun c hc => hnames c (List.mem_of_mem_dropLast hc)
    cases hwrite : Storage.writeInto t path.dropLast
        ⟨path.getLast?.getD "", body.document⟩ with
    | mk saved written =>
      rw [hwrite] at hsaved
      obtain ⟨⟨⟩, rfl⟩ := Handler.exists_of_reply hsaved
      obtain ⟨_, hwalk⟩ := Storage.writeInto_eq_ok hbefore hwrite
      rw [Path.resolve_dropLast hnames, hbody] at hwalk
      exact readFlow_of_walk hpath hwalk
        (Storage.parseBytes_documentBytes hexact hdistinct tcode)

/-- **A flow that was saved is answered as it was saved**, whatever is sent along. -/
theorem perform_readFlow_of_saveFlow (hhere : ∀ c ∈ s.here, Path.IsName c) {body : FlowBody}
    {sent : Json} (hsent : FlowBody.ofJson? sent = some body)
    (hbody : body.document = .obj fields) (hexact : Json.Exact (.obj fields))
    (hdistinct : Json.Distinct (.obj fields)) {answer : Json}
    (hsaved : (s.perform t sent (.saveFlow tcode)).2.outcome = .ok (.ok answer)) (asked : Json) :
    (s.perform (s.perform t sent (.saveFlow tcode)).1 asked (.readFlow tcode)).2 =
      pure (.ok (.obj fields)) := by
  simp only [perform, hsent] at hsaved ⊢
  rw [readFlow_of_saveFlow hhere hbody hexact hdistinct hsaved]
  rfl

/-! ## The alias table -/

/-- The first file that may hold the table is read where a walk arrives at it. -/
theorem storedTable_of_walk
    (hwalk : t.walk (s.walkTo s.settings.outputDirectory ++ [aliasesFile]) =
      .ok (place, .file bytes))
    (hread : Storage.readDocument bytes = .ok (.document (.obj fields))) :
    s.storedTable t = pure (some (.ofFields fields)) := by
  have hexists := FileTree.exists?_eq_true_iff.2 ⟨_, _, hwalk⟩
  have hbytes : t.read (s.walkTo s.settings.outputDirectory ++ [aliasesFile]) = .ok bytes := by
    rw [FileTree.read, hwalk]
  rw [storedTable, storedTableIn]
  simp only [hexists, hbytes, hread, Storage.atPath, ofExcept_ok_bind, if_true]

theorem not_mem_concat_aliasesFile (hroot : ∀ c ∈ root, Path.IsName c) :
    ".." ∉ root ++ [aliasesFile] := by
  rw [List.mem_append, List.mem_singleton, not_or]
  exact ⟨fun hmem => (hroot _ hmem).ne_points rfl, by decide⟩

/-- A batch that is written leaves its alias table in the directory. -/
theorem walk_aliases_of_writeInto {r : CompileResult} {names : List String}
    (hroot : ∀ c ∈ root, Path.IsName c) (h : r.writeInto t root = (t', .ok names)) :
    t'.walk (root ++ [aliasesFile]) = .ok (root ++ [aliasesFile],
      .file (Storage.documentBytes r.table.stored.toJson)) := by
  have hresolve (name : String) (hname : Path.IsName name) :
      Path.resolve root name = root ++ [name] := Path.resolve_of_name hroot hname
  have hall : Storage.writeAllInto t root r.outputs = (t', .ok ()) := by
    unfold CompileResult.writeInto at h
    split at h
    · rename_i written hwritten
      rw [hwritten, (Prod.mk.inj h).1]
    · cases h
  obtain ⟨between, hbefore, hmain⟩ := Storage.writeAllInto_append_eq_ok hall
  obtain ⟨flows, _, haliases⟩ := Storage.writeAllInto_append_eq_ok hbefore
  obtain ⟨_, hwalk⟩ :=
    Storage.writeInto_eq_ok hroot (Storage.writeAllInto_singleton_eq_ok haliases)
  rw [hresolve aliasesFile (by decide)] at hwalk
  cases hdocument : r.mainFlow with
  | none =>
    rw [hdocument] at hmain
    obtain rfl := (Prod.mk.inj hmain).1
    exact hwalk
  | some document =>
    rw [hdocument] at hmain
    have hlast := Storage.writeAllInto_singleton_eq_ok hmain
    have hother : ¬ Path.resolve root mainFlowFile <+: root ++ [aliasesFile] := by
      rw [hresolve mainFlowFile (by decide), List.prefix_append_right_inj]
      decide
    have hkept := Storage.walk_writeInto_of_not_below hroot ⟨mainFlowFile, document⟩
      (not_mem_concat_aliasesFile hroot) hother hwalk
    rwa [hlast] at hkept

/-- **The alias table written with a batch is the one that is read**, wherever a walk to the
output directory arrives. -/
theorem storedTable_of_writeInto (hhere : ∀ c ∈ s.here, Path.IsName c) {r : CompileResult}
    {names : List String} (hresolve : s.resolve s.settings.outputDirectory = .ok root)
    (h : r.writeInto t root = (t', .ok names))
    (hexists : t'.exists? (s.walkTo s.settings.outputDirectory ++ [aliasesFile]) = .ok true) :
    ∃ fields, r.table.stored.toJson = .obj fields ∧
      s.storedTable t' = pure (some (.ofFields fields)) := by
  obtain ⟨hnormal, hroot⟩ := resolve_eq_ok hhere hresolve
  obtain ⟨place, node, hwalk⟩ := FileTree.exists?_eq_true_iff.1 hexists
  obtain ⟨hplace, hat⟩ := FileTree.place_of_walk hwalk
  rw [Path.normalize_concat (by decide), ← hnormal] at hplace
  obtain ⟨-, -, -, -, hstored⟩ := (FileTree.walk_eq_ok_iff (not_mem_concat_aliasesFile hroot)).1
    (walk_aliases_of_writeInto hroot h)
  rw [hplace, hstored] at hat
  obtain rfl := Option.some.inj hat
  obtain ⟨hexact, hdistinct⟩ := AliasTable.exact_toJson_stored r.table
  have hread := Storage.readDocumentAs_documentBytes .plain hexact hdistinct
  exact ⟨_, rfl, storedTable_of_walk hwalk hread⟩

/-- The table is found where the way to the output directory leads through no other. -/
theorem exists_aliases_of_writeInto (hhere : ∀ c ∈ s.here, Path.IsName c) {r : CompileResult}
    {names : List String} (hresolve : s.resolve s.settings.outputDirectory = .ok root)
    (h : r.writeInto t root = (t', .ok names))
    (hup : ".." ∉ s.walkTo s.settings.outputDirectory) :
    t'.exists? (s.walkTo s.settings.outputDirectory ++ [aliasesFile]) = .ok true := by
  obtain ⟨hnormal, hroot⟩ := resolve_eq_ok hhere hresolve
  rw [Path.normalize_of_not_mem hup] at hnormal
  rw [← hnormal]
  exact FileTree.exists?_eq_true_iff.2 ⟨_, _, walk_aliases_of_writeInto hroot h⟩

end Site

end Service

/-! ## Stored documents -/

namespace Storage

/-- What is promised of the fields of a document that is stored. -/
structure ReadBack (fields : Entries Json) : Prop where
  /-- The bytes that are stored for it are parsed as it. -/
  bytes : ∀ tcode, Recording.parseBytes (documentBytes (.obj fields)) tcode = .ok (.obj fields)
  /-- A file that it was written into holds these bytes. -/
  file : ∀ t t' directory name, (∀ c ∈ directory, Path.IsName c) →
    writeInto t directory ⟨name, .obj fields⟩ = (t', .ok ()) →
    readInside t' directory name = .ok (documentBytes (.obj fields))
  /-- As a flow that is sent and saved, it is answered as it was saved. -/
  flow : ∀ (s : Service.Site) t tcode sent body answer asked, (∀ c ∈ s.here, Path.IsName c) →
    Service.FlowBody.ofJson? sent = some body → body.document = .obj fields →
    (s.perform t sent (.saveFlow tcode)).2.outcome = .ok (.ok answer) →
    (s.perform (s.perform t sent (.saveFlow tcode)).1 asked (.readFlow tcode)).2 =
      pure (.ok (.obj fields))

theorem readBack_of_exact {fields : Entries Json} (hexact : Json.Exact (.obj fields))
    (hdistinct : Json.Distinct (.obj fields)) : ReadBack fields := by
  constructor
  case bytes =>
    intro tcode
    exact parseBytes_documentBytes hexact hdistinct tcode
  case file =>
    intro t t' directory name hdirectory h
    have hread := readInside_of_writeInto hdirectory h
    exact hread
  case flow =>
    intro s t tcode sent body answer asked hhere hsent hbody hsaved
    exact Service.Site.perform_readFlow_of_saveFlow hhere hsent hbody hexact hdistinct hsaved asked

/-- **Stored documents read back unchanged**: exact documents with distinct keys, and the alias
table that is written with a batch. -/
theorem documents_read_back :
    (∀ fields, Json.Exact (.obj fields) → Json.Distinct (.obj fields) → ReadBack fields) ∧
      ∀ (s : Service.Site) (r : CompileResult) (t t' : FileTree) (root names : List String),
        (∀ c ∈ s.here, Path.IsName c) → s.resolve s.settings.outputDirectory = .ok root →
        r.writeInto t root = (t', .ok names) →
        let file := s.walkTo s.settings.outputDirectory ++ [aliasesFile]
        (".." ∉ s.walkTo s.settings.outputDirectory → t'.exists? file = .ok true) ∧
          (t'.exists? file = .ok true → ∃ fields, r.table.stored.toJson = .obj fields ∧
            s.storedTable t' = pure (some (.ofFields fields))) := by
  refine ⟨fun fields => readBack_of_exact, ?_⟩
  intro s r t t' root names hhere hresolve h
  exact ⟨Service.Site.exists_aliases_of_writeInto hhere hresolve h,
    Service.Site.storedTable_of_writeInto hhere hresolve h⟩

/-- Fields with characters of every kind, and empty containers. -/
def assorted : Entries Json :=
  [("steps", .obj [("step1", .obj [("value", .str "a\"b\\c\n\té😀")]), ("end", .obj [])]),
    ("counts", .arr [.int (-120), .int 0, .null, .bool true, .arr []])]

theorem exact_assorted : Json.Exact (.obj assorted) ∧ Json.Distinct (.obj assorted) := by
  constructor
  · simp [assorted, Json.Exact, Json.ExactItems, Json.ExactFields]
    decide
  · simp [assorted, Json.Distinct, Json.DistinctItems, Json.DistinctFields, Entries.keys]

/-- A site that writes into the directory `out`. -/
def plainSite : Service.Site :=
  (Service.Site.ofEnvironment (.singleton "SAPFLOW_OUTPUT_DIR" "out") "2024-01-01" []).1

theorem saved_assorted : ∃ answer,
    (plainSite.perform Sample.bare (.obj assorted) (.saveFlow "va01")).2.outcome =
      .ok (.ok answer) := ⟨_, by rfl⟩

/-- A document is written and parsed, a flow is saved and answered, and a batch leaves its table. -/
theorem documents_read_back_assorted :
    let saved := plainSite.perform Sample.bare (.obj assorted) (.saveFlow "va01")
    let r := (compileDocuments ⟨"2024-01-01", .null, false, []⟩ Sample.documents).1
    (Json.Exact (.obj assorted) ∧ Json.Distinct (.obj assorted)) ∧
      (∃ t', writeInto Sample.bare ["out"] ⟨"va01.json", .obj assorted⟩ = (t', .ok ()) ∧
        readInside t' ["out"] "va01.json" = .ok (documentBytes (.obj assorted))) ∧
      Recording.parseBytes (documentBytes (.obj assorted)) "va01" = .ok (.obj assorted) ∧
      ((∃ answer, saved.2.outcome = .ok (.ok answer)) ∧
        (plainSite.perform saved.1 .null (.readFlow "va01")).2 = pure (.ok (.obj assorted))) ∧
      ∃ t' fields, r.writeInto Sample.bare ["out"] = (t', .ok r.written) ∧
        r.table.stored.toJson = .obj fields ∧
        plainSite.storedTable t' = pure (some (.ofFields fields)) := by
  intro saved r
  have hback : ReadBack assorted :=
    documents_read_back.1 assorted exact_assorted.1 exact_assorted.2
  have hwrite : writeInto Sample.bare ["out"] ⟨"va01.json", .obj assorted⟩ =
      ((writeInto Sample.bare ["out"] ⟨"va01.json", .obj assorted⟩).1, .ok ()) := by rfl
  have hread := hback.file _ _ ["out"] "va01.json" Sample.bare_holds.isName hwrite
  obtain ⟨answer, hanswer⟩ := saved_assorted
  have hanswered := hback.flow plainSite Sample.bare "va01" (.obj assorted) _ answer .null
    (List.forall_mem_nil _) rfl rfl hanswer
  have hkeys : r.flows.keys = ["va02", "va01"] := by rfl
  -- what follows needs the codes of the batch only
  clear_value r
  have hwritten : (r.writeInto Sample.bare ["out"]).2 = .ok r.written := by
    rw [r.writeInto_isOk_iff Sample.bare_holds, hkeys]
    decide
  have hpair : r.writeInto Sample.bare ["out"] =
      ((r.writeInto Sample.bare ["out"]).1, .ok r.written) := Prod.ext rfl hwritten
  have hroot : plainSite.resolve plainSite.settings.outputDirectory = .ok ["out"] := by rfl
  obtain ⟨hexists, htable⟩ :=
    documents_read_back.2 plainSite r _ _ ["out"] _ (List.forall_mem_nil _) hroot hpair
  obtain ⟨fields, hfields, hstored⟩ := htable (hexists (by decide))
  exact ⟨exact_assorted, ⟨_, hwrite, hread⟩, hback.bytes "va01", ⟨⟨answer, hanswer⟩, hanswered⟩,
    _, fields, hpair, hfields, hstored⟩

end Storage

end ReplayFlow
