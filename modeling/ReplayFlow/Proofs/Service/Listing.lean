import ReplayFlow.Proofs.Batch.Source
import ReplayFlow.Proofs.Service.ControlTypes
import ReplayFlow.Proofs.Service.StoredFlow

/-!
The listing of control types over a directory. Its files are read one after the other
(`controlTypesOf_outcome`), and strictly read under every spelling (`Strict.gathered`). The
listing is answered where what is gathered is the same in all of them; that is so where it
gets past each file, and then the answer is the union of what they give
(`answer_listing`). One file is enough to stop it (`listing_stops`).
-/

namespace ReplayFlow

namespace Service

variable {limit : Nat} {spelling : Json.Spelling} {t : FileTree} {directory files found : List String}
  {file type : String} {types : List String} {bytes : List UInt8} {reply : Reply}

/-! ## Files of flows -/

/-- A file of the directory under a name of flows. -/
def IsFlowFile (t : FileTree) (directory : List String) (name : String) : Prop :=
  name ∈ (t.children directory).map Prod.fst ∧ ".json".toList <:+ name.toList

theorem mem_flowFiles : file ∈ flowFiles t directory ↔ IsFlowFile t directory file := by
  rw [flowFiles, Text.mem_sorted, List.mem_filter, Storage.fitsPattern_defaultPattern, IsFlowFile]

/-- What is no directory has no flows in it. -/
theorem flowFiles_of_absent (h : t.isDirectory? directory = .ok false) :
    flowFiles t directory = [] := by
  have hnone : t.children directory = [] := by
    unfold FileTree.children
    unfold FileTree.isDirectory? at h
    cases hwalk : t.walk directory with
    | error trouble => rfl
    | ok reached =>
      obtain ⟨place, node⟩ := reached
      cases node with
      | file bytes => rfl
      | directory =>
        rw [hwalk] at h
        cases h
  rw [flowFiles, hnone]
  exact List.mergeSort_nil

/-! ## The listing as it runs -/

/-- What a file of a directory gives. -/
def typesAt (t : FileTree) (directory : List String) (file : String) :
    Except Fault (List String) :=
  (Storage.atPath (directory ++ [file]) (t.read (directory ++ [file]))).bind (typesOf .plain)

theorem typesAt_of_read (h : t.read (directory ++ [file]) = .ok bytes) :
    typesAt t directory file = typesOf .plain bytes := by
  rw [typesAt, h]
  rfl

theorem controlTypesOf_cons (t : FileTree) (directory found : List String) (file : String)
    (rest : List String) :
    (controlTypesOf t directory found (file :: rest)).outcome =
      (typesAt t directory file).bind fun types =>
        (controlTypesOf t directory (found ++ types) rest).outcome := by
  simp only [controlTypesOf, typesAt, Run.outcome_bind]
  cases Storage.atPath (directory ++ [file]) (t.read (directory ++ [file])) with
  | error fault => rfl
  | ok bytes =>
    change (Storage.readDocument bytes).bind _ = ((Storage.readDocument bytes).bind _).bind _
    cases Storage.readDocument bytes with
    | error fault => rfl
    | ok reading =>
      cases reading with
      | broken place =>
        -- what is reported of a broken file is no part of the outcome
        change (Run.report _ >>= _).outcome =
          (controlTypesOf t directory (found ++ []) rest).outcome
        rw [Run.outcome_report_bind, List.append_nil]
      | document v => exact Run.outcome_bind (.ofExcept (controlTypesIn v)) _

/-- The files are read one after the other. -/
theorem controlTypesOf_outcome (t : FileTree) (directory found files : List String) :
    (controlTypesOf t directory found files).outcome =
      (files.mapM (typesAt t directory)).map fun lists => found ++ lists.flatten := by
  induction files generalizing found with
  | nil =>
    change Except.ok found = .ok (found ++ [])
    rw [List.append_nil]
  | cons file rest ih =>
    rw [controlTypesOf_cons, List.mapM_cons]
    cases typesAt t directory file with
    | error fault => rfl
    | ok types =>
      change (controlTypesOf t directory (found ++ types) rest).outcome =
        (rest.mapM (typesAt t directory) >>= fun lists => .ok (types :: lists)).map _
      rw [ih]
      cases rest.mapM (typesAt t directory) with
      | error fault => rfl
      | ok lists => simp [Except.map, bind, Except.bind]

namespace Site

/-- The reply of a listing that found some texts. -/
def unionReply (found : List String) : Reply :=
  .ok (.obj [("controlTypes", .arr ((Text.sorted found.eraseDups).map Json.str))])

theorem listControlTypes_outcome (s : Site) (t : FileTree) :
    let directory := s.walkTo s.settings.outputDirectory
    (s.listControlTypes t).outcome =
      (Storage.atPath directory (t.isDirectory? directory)).bind fun _ =>
        ((flowFiles t directory).mapM (typesAt t directory)).map fun lists =>
          unionReply lists.flatten := by
  intro directory
  have hreply : ((flowFiles t directory).mapM (typesAt t directory)).map
      (fun lists => unionReply lists.flatten) =
        (controlTypesOf t directory [] (flowFiles t directory)).outcome.map unionReply := by
    rw [controlTypesOf_outcome]
    cases (flowFiles t directory).mapM (typesAt t directory) <;> rfl
  rw [hreply, listControlTypes, Run.outcome_bind]
  cases htold : t.isDirectory? directory with
  | error trouble => rfl
  | ok present =>
    have hlast : ∀ run : Run (List String),
        (run >>= fun found => pure (unionReply found)).outcome = run.outcome.map unionReply := by
      intro run
      rw [Run.outcome_bind]
      cases run.outcome <;> rfl
    cases present with
    | true => exact hlast (controlTypesOf t directory [] (flowFiles t directory))
    | false =>
      rw [flowFiles_of_absent htold]
      rfl

end Site

end Service

/-! ## The strict listing -/

namespace Strict

section

variable (limit : Nat) (spelling : Json.Spelling) (t : FileTree) (directory : List String)

def typesAt (file : String) : Except Stop (List String) := do
  let bytes ← (Storage.atPath (directory ++ [file]) (t.read (directory ++ [file]))).mapError .fault
  typesOf limit spelling bytes

/-- What each flow of a directory gives, in a spelling. -/
def gathered : Except Stop (List (List String)) := do
  let _ ← (Storage.atPath directory (t.isDirectory? directory)).mapError .fault
  (Service.flowFiles t directory).mapM (typesAt limit spelling t directory)

end

variable {limit : Nat} {spelling : Json.Spelling} {t : FileTree} {directory types : List String}
  {file : String}

theorem typesAt_eq_ok_iff : typesAt limit spelling t directory file = .ok types ↔
    ∃ bytes, t.read (directory ++ [file]) = .ok bytes ∧
      typesOf limit spelling bytes = .ok types := by
  unfold typesAt
  cases t.read (directory ++ [file]) with
  | error trouble => exact iff_of_false nofun (by rintro ⟨_, ⟨⟩, _⟩)
  | ok bytes =>
    exact ⟨fun h => ⟨bytes, rfl, h⟩, by rintro ⟨_, ⟨⟩, h⟩; exact h⟩

theorem gathered_eq_ok_iff {lists : List (List String)} :
    gathered limit spelling t directory = .ok lists ↔
      (∃ present, t.isDirectory? directory = .ok present) ∧
        (Service.flowFiles t directory).mapM (typesAt limit spelling t directory) = .ok lists := by
  unfold gathered
  cases t.isDirectory? directory with
  | error trouble => exact iff_of_false nofun (by rintro ⟨⟨_, ⟨⟩⟩, _⟩)
  | ok present => exact (and_iff_right ⟨present, rfl⟩).symm

end Strict

namespace Service

/-- A reply to the listing, where reading goes down `limit` times. What is gathered is the same in
every spelling: a text with half of a pair alone cannot be sent. -/
def Answers (limit : Nat) (t : FileTree) (directory : List String) (reply : Reply) : Prop :=
  ∃ lists, (∀ spelling, Strict.gathered limit spelling t directory = .ok lists) ∧
    reply = Site.unionReply lists.flatten

/-- The output directory can be told, and the listing gets past all flows in it. -/
structure Listable (limit : Nat) (t : FileTree) (directory : List String) : Prop where
  told : ∃ present, t.isDirectory? directory = .ok present
  files : ∀ name, IsFlowFile t directory name →
    ∃ bytes, t.read (directory ++ [name]) = .ok bytes ∧ Readable limit bytes

/-- Strictly sorted texts that are just what the flows in a directory give. -/
structure IsUnion (t : FileTree) (directory types : List String) : Prop where
  sorted : types.Pairwise (· < ·)
  exact : ∀ type, type ∈ types ↔ ∃ name bytes, IsFlowFile t directory name ∧
    t.read (directory ++ [name]) = .ok bytes ∧ (Names bytes type ∨ Strays bytes type)

theorem exists_forall_typesAt_iff :
    (∃ types, ∀ spelling, Strict.typesAt limit spelling t directory file = .ok types) ↔
      ∃ bytes, t.read (directory ++ [file]) = .ok bytes ∧ Readable limit bytes := by
  simp only [Strict.typesAt_eq_ok_iff, ← exists_forall_typesOf_iff]
  cases t.read (directory ++ [file]) with
  | error trouble => exact iff_of_false (by rintro ⟨_, h⟩; simpa using h .plain) (by simp)
  | ok bytes => simp

/-- **The listing is answered** just where it gets past all flows. -/
theorem exists_answers_iff :
    (∃ reply, Answers limit t directory reply) ↔ Listable limit t directory := by
  have : Nonempty Json.Spelling := ⟨.plain⟩
  have hgathered : (∃ reply, Answers limit t directory reply) ↔
      ∃ lists, ∀ spelling, Strict.gathered limit spelling t directory = .ok lists :=
    ⟨fun ⟨_, lists, h, _⟩ => ⟨lists, h⟩, fun ⟨lists, h⟩ => ⟨_, lists, h, rfl⟩⟩
  have hfiles : (∃ lists, ∀ spelling, (flowFiles t directory).mapM
      (Strict.typesAt limit spelling t directory) = .ok lists) ↔
        ∀ name, IsFlowFile t directory name →
          ∃ bytes, t.read (directory ++ [name]) = .ok bytes ∧ Readable limit bytes := by
    simp only [Except.exists_forall_mapM_iff, exists_forall_typesAt_iff, mem_flowFiles]
  rw [hgathered]
  simp only [Strict.gathered_eq_ok_iff]
  constructor
  · rintro ⟨lists, h⟩
    exact ⟨(h .plain).1, hfiles.1 ⟨lists, fun spelling => (h spelling).2⟩⟩
  · rintro ⟨htold, hlistable⟩
    obtain ⟨lists, hlists⟩ := hfiles.2 hlistable
    exact ⟨lists, fun spelling => ⟨htold, hlists spelling⟩⟩

/-- What the strict listing answers is what the service answers. -/
theorem Site.listControlTypes_of_answers {s : Site}
    (h : Answers limit t (s.walkTo s.settings.outputDirectory) reply) :
    (s.listControlTypes t).outcome = .ok reply := by
  obtain ⟨lists, hlists, rfl⟩ := h
  obtain ⟨⟨present, htold⟩, hgathered⟩ := Strict.gathered_eq_ok_iff.1 (hlists .plain)
  have hread : ∀ file ∈ flowFiles t (s.walkTo s.settings.outputDirectory), ∀ types,
      Strict.typesAt limit .plain t (s.walkTo s.settings.outputDirectory) file = .ok types →
        typesAt t (s.walkTo s.settings.outputDirectory) file = .ok types := by
    intro file _ types htypes
    obtain ⟨bytes, hbytes, htypes⟩ := Strict.typesAt_eq_ok_iff.1 htypes
    rw [typesAt_of_read hbytes]
    exact (Strict.typesOf_eq_ok_iff.1 htypes).2
  rw [listControlTypes_outcome, htold, Except.mapM_of_mapM hread hgathered]
  rfl

/-- A directory that can be listed is answered with the union of what its flows give. -/
theorem Listable.exists_union (h : Listable limit t directory) :
    ∃ types, Answers limit t directory (.ok (.obj [("controlTypes", .arr (types.map .str))])) ∧
      IsUnion t directory types := by
  obtain ⟨_, lists, hlists, rfl⟩ := exists_answers_iff.2 h
  obtain ⟨_, hgathered⟩ := Strict.gathered_eq_ok_iff.1 (hlists .plain)
  refine ⟨Text.sorted lists.flatten.eraseDups, ⟨lists, hlists, rfl⟩,
    Text.pairwise_lt_sorted (Text.nodup_eraseDups _), fun type => ?_⟩
  rw [Text.mem_sorted, List.mem_eraseDups, Except.mem_flatten_of_mapM hgathered]
  constructor
  · rintro ⟨file, hfile, types, htypes, htype⟩
    obtain ⟨bytes, hread, htypes⟩ := Strict.typesAt_eq_ok_iff.1 htypes
    exact ⟨file, bytes, mem_flowFiles.1 hfile, hread,
      (mem_of_typesOf (Strict.typesOf_eq_ok_iff.1 htypes).2).1 htype⟩
  · rintro ⟨file, bytes, hfile, hread, hgives⟩
    obtain ⟨types, htypes⟩ := exists_forall_typesAt_iff.2 (h.files file hfile)
    obtain ⟨bytes', hread', hbytes⟩ := Strict.typesAt_eq_ok_iff.1 (htypes .plain)
    cases hread.symm.trans hread'
    exact ⟨file, mem_flowFiles.2 hfile, types, htypes .plain,
      (mem_of_typesOf (Strict.typesOf_eq_ok_iff.1 hbytes).2).2 hgives⟩

/-! ## Requests -/

theorem answer_outcome_listing (environment : Environment) (today : String) (here : List String)
    (t : FileTree) : (Endpoint.controlTypes.answer environment today here t .get none).2.outcome =
      ((Site.ofEnvironment environment today here).1.listControlTypes t).outcome := by
  simp only [Endpoint.answer, Endpoint.access, Site.perform]

/-- **The listing of control types.** It is answered just where every flow in the output directory
can be read: it is a text that nests no deeper than reading goes down and has no integer that is
too long; where its metadata give control types, these have members; and no text among them has
half of a pair alone. Then it is the strictly sorted union of what the flows give: the texts in an
array of types, but also the keys of an object and the characters of a text. -/
theorem answer_listing (limit : Nat) (environment : Environment) (today : String)
    (here : List String) (t : FileTree) :
    let site := (Site.ofEnvironment environment today here).1
    let directory := site.walkTo site.settings.outputDirectory
    ((∃ reply, Answers limit t directory reply) ↔ Listable limit t directory) ∧
      (∀ reply, Answers limit t directory reply →
        (Endpoint.controlTypes.answer environment today here t .get none).2.outcome = .ok reply) ∧
      (Listable limit t directory → ∃ types,
        Answers limit t directory (.ok (.obj [("controlTypes", .arr (types.map .str))])) ∧
          IsUnion t directory types) := by
  intro site directory
  refine ⟨exists_answers_iff, fun reply hreply => ?_, Listable.exists_union⟩
  rw [answer_outcome_listing]
  exact Site.listControlTypes_of_answers hreply

/-! ## Samples -/

/-- An environment with the output directory `out`. -/
def plainEnvironment : Environment := .singleton "SAPFLOW_OUTPUT_DIR" "out"

/-- The listing of the directory `out`. -/
def listed (t : FileTree) : Except Fault Reply :=
  (Endpoint.controlTypes.answer plainEnvironment "2024-01-01" [] t .get none).2.outcome

theorem listed_eq {t : FileTree} (htold : t.isDirectory? ["out"] = .ok true)
    (hfiles : flowFiles t ["out"] = files) :
    listed t = (files.mapM (typesAt t ["out"])).map fun lists =>
      Site.unionReply lists.flatten := by
  have hdirectory : (Site.ofEnvironment plainEnvironment "2024-01-01" []).1.walkTo
      (Site.ofEnvironment plainEnvironment "2024-01-01" []).1.settings.outputDirectory =
      ["out"] := rfl
  rw [listed, answer_outcome_listing, Site.listControlTypes_outcome, hdirectory, htold, hfiles]
  rfl

/-- A flow without steps and with this as its control types. -/
def flowOfTypes (types : Json) : Entries Json :=
  [("steps", .obj []), ("metadata", .obj [("controlTypes", types)])]

theorem typesOf_flowOfTypes {types : Json} (hexact : Json.Exact types)
    (hdistinct : Json.Distinct types) (spelling : Json.Spelling) :
    typesOf spelling (Storage.documentBytes (.obj (flowOfTypes types))) = textsIn types := by
  have hdocument : Json.Exact (.obj (flowOfTypes types)) ∧
      Json.Distinct (.obj (flowOfTypes types)) := by
    simp [flowOfTypes, Json.Exact, Json.ExactFields, Json.Distinct, Json.DistinctFields,
      Entries.keys, hexact, hdistinct]
  rw [typesOf, Storage.readDocumentAs_documentBytes spelling hdocument.1 hdocument.2]
  rfl

/-- Types with a repetition and a number among them. -/
def someTypes : Json := .arr [.str "GuiButton", .int 7, .str "GuiTextField", .str "GuiButton"]

theorem typesOf_someTypes (spelling : Json.Spelling) :
    typesOf spelling (Storage.documentBytes (.obj (flowOfTypes someTypes))) =
      .ok ["GuiButton", "GuiTextField", "GuiButton"] := by
  refine (typesOf_flowOfTypes ?_ ?_ spelling).trans rfl
  · simp [someTypes, Json.Exact, Json.ExactItems]
    decide
  · simp [someTypes, Json.Distinct, Json.DistinctItems]

/-- A broken file, one of another shape, a flow that lists types, and a file of another name. -/
def mixedFiles : FileTree :=
  ⟨[(["out"], .directory), (["out", "a.json"], .file (Utf8.encode "[1".toList)),
    (["out", "b.json"], .file (Utf8.encode "[]".toList)),
    (["out", "c.json"], .file (Storage.documentBytes (.obj (flowOfTypes someTypes)))),
    (["out", "d.txt"], .file [0xFF])]⟩

theorem answers_mixedFiles : Answers 3 mixedFiles ["out"]
    (.ok (.obj [("controlTypes", .arr [.str "GuiButton", .str "GuiTextField"])])) := by
  have hfiles : flowFiles mixedFiles ["out"] = ["a.json", "b.json", "c.json"] :=
    List.mergeSort_of_pairwise (by decide)
  have ha (spelling) : Strict.typesAt 3 spelling mixedFiles ["out"] "a.json" = .ok [] := by rfl
  have hb (spelling) : Strict.typesAt 3 spelling mixedFiles ["out"] "b.json" = .ok [] := by rfl
  have hc (spelling) : Strict.typesAt 3 spelling mixedFiles ["out"] "c.json" =
      .ok ["GuiButton", "GuiTextField", "GuiButton"] :=
    Strict.typesAt_eq_ok_iff.2 ⟨_, by rfl,
      Strict.typesOf_eq_ok_iff.2 ⟨by decide +kernel, typesOf_someTypes spelling⟩⟩
  refine ⟨[[], [], ["GuiButton", "GuiTextField", "GuiButton"]], fun spelling => ?_, ?_⟩
  · refine Strict.gathered_eq_ok_iff.2 ⟨⟨true, rfl⟩, ?_⟩
    rw [hfiles, List.mapM_cons, List.mapM_cons, List.mapM_cons, ha, hb, hc]
    rfl
  · have honce : ["GuiButton", "GuiTextField", "GuiButton"].eraseDups =
        ["GuiButton", "GuiTextField"] := by decide
    have hsorted : Text.sorted ["GuiButton", "GuiTextField"] = ["GuiButton", "GuiTextField"] :=
      List.mergeSort_of_pairwise (by decide)
    change _ = Site.unionReply ["GuiButton", "GuiTextField", "GuiButton"]
    rw [Site.unionReply, honce, hsorted]
    rfl

theorem answer_listing_mixed :
    Listable 3 mixedFiles ["out"] ∧
      listed mixedFiles =
        .ok (.ok (.obj [("controlTypes", .arr [.str "GuiButton", .str "GuiTextField"])])) ∧
      IsUnion mixedFiles ["out"] ["GuiButton", "GuiTextField"] := by
  obtain ⟨hanswered, hreplies, hunion⟩ :=
    answer_listing 3 plainEnvironment "2024-01-01" [] mixedFiles
  have hlistable : Listable 3 mixedFiles ["out"] := hanswered.1 ⟨_, answers_mixedFiles⟩
  have hlisted := hreplies _ answers_mixedFiles
  obtain ⟨types, htypes, hexact⟩ := hunion hlistable
  have hsame : types = ["GuiButton", "GuiTextField"] := by
    have houtcome := (hreplies _ htypes).symm.trans hlisted
    simp only [Except.ok.injEq, Reply.ok.injEq, Json.obj.injEq, List.cons.injEq, Prod.mk.injEq,
      Json.arr.injEq, and_true, true_and] at houtcome
    exact List.map_injective_iff.2 (fun _ _ h => Json.str.inj h) houtcome
  exact ⟨hlistable, hlisted, hsame ▸ hexact⟩

/-- A flow that lists a type, behind a file that is no text. -/
def tornFiles : FileTree :=
  ⟨[(["out"], .directory), (["out", "a.json"], .file [0xFF]),
    (["out", "b.json"], .file (Storage.documentBytes (.obj (flowOfTypes someTypes))))]⟩

/-- The files after a flow with this as its control types is saved. -/
def savedFiles (types : Json) : FileTree :=
  ⟨[(["out"], .directory),
    (["out", "zt.json"], .file (Storage.documentBytes (.obj (flowOfTypes types))))]⟩

/-- Saves such a flow. -/
def saved (types : Json) : FileTree × Run Reply :=
  (Endpoint.flow "zt").answer plainEnvironment "2024-01-01" [] Sample.bare .put
    (some (.obj (flowOfTypes types)))

theorem listed_savedFiles {types : Json} (hexact : Json.Exact types)
    (hdistinct : Json.Distinct types) :
    listed (savedFiles types) = (textsIn types).map Site.unionReply := by
  have hnames : ((savedFiles types).children ["out"]).map Prod.fst = ["zt.json"] := by rfl
  have hfits : ["zt.json"].filter (Storage.fitsPattern Storage.defaultPattern) = ["zt.json"] := by
    decide
  have hfiles : flowFiles (savedFiles types) ["out"] = ["zt.json"] := by
    rw [flowFiles, hnames, hfits]
    exact List.mergeSort_singleton _
  have htypes : typesAt (savedFiles types) ["out"] "zt.json" = textsIn types :=
    (typesAt_of_read (by rfl)).trans (typesOf_flowOfTypes hexact hdistinct .plain)
  rw [listed_eq rfl hfiles, List.mapM_cons, htypes]
  cases textsIn types with
  | error fault => rfl
  | ok types =>
    change Except.ok (Site.unionReply (types ++ [])) = _
    rw [List.append_nil]
    rfl

/-- **One file stops the listing of all**: one that is no text, or a flow that was saved with a
number as its control types. Nor are the keys of an object passed over. -/
theorem listing_stops :
    listed tornFiles = .error (.notUtf8 ⟨0, 1, 0xFF, .startByte⟩) ∧
      ((∃ reply, (saved (.int 5)).2.outcome = .ok reply) ∧
        listed (saved (.int 5)).1 = .error .notIterable) ∧
      listed (saved (.obj [("GuiButton", .null)])).1 =
        .ok (.ok (.obj [("controlTypes", .arr [.str "GuiButton"])])) := by
  have htorn : flowFiles tornFiles ["out"] = ["a.json", "b.json"] :=
    List.mergeSort_of_pairwise (by decide)
  have ha : typesAt tornFiles ["out"] "a.json" =
      .error (.notUtf8 ⟨0, 1, 0xFF, .startByte⟩) := by rfl
  have hnumber : (saved (.int 5)).1 = savedFiles (.int 5) := by rfl
  have hobject : (saved (.obj [("GuiButton", .null)])).1 =
      savedFiles (.obj [("GuiButton", .null)]) := by rfl
  refine ⟨?_, ⟨⟨_, by rfl⟩, ?_⟩, ?_⟩
  · rw [listed_eq rfl htorn, List.mapM_cons, ha]
    rfl
  · rw [hnumber, listed_savedFiles]
    · rfl
    · simp [Json.Exact]
      decide
    · simp [Json.Distinct]
  · rw [hobject, listed_savedFiles]
    · have hsorted : Text.sorted ["GuiButton"] = ["GuiButton"] := List.mergeSort_singleton _
      have hreply : Site.unionReply ["GuiButton"] =
          .ok (.obj [("controlTypes", .arr [.str "GuiButton"])]) := by
        rw [Site.unionReply, (by decide : ["GuiButton"].eraseDups = ["GuiButton"]), hsorted]
        rfl
      rw [textsIn_obj]
      exact congrArg Except.ok hreply
    · simp [Json.Exact, Json.ExactFields]
    · simp [Json.Distinct, Json.DistinctFields, Entries.keys]

end Service

end ReplayFlow
