import ReplayFlow.Proofs.Batch.Accounting
import ReplayFlow.Proofs.Json.Nesting
import ReplayFlow.Proofs.Recording.Document

/-!
A source of recordings as a batch. Files that hold no document are skipped and
the others are compiled as documents (`compileSource_outcome`). The one content
that stops a run is an integer past the limit (`compileSource_settles`), and it
takes the whole batch with it (`compileSource_stops`).
-/

namespace ReplayFlow

/-! ## Runs -/

namespace Run

variable {α β : Type}

theorem outcome_bind (run : Run α) (next : α → Run β) :
    (run >>= next).outcome = run.outcome.bind fun value => (next value).outcome := by
  change (Run.bind run next).outcome = _
  unfold Run.bind
  cases run.outcome <;> rfl

@[simp] theorem outcome_report_bind (notices : List Notice) (next : Unit → Run β) :
    (report notices >>= next).outcome = (next ()).outcome := outcome_bind _ _

end Run

/-- Files that were noted before the entries change what the result says was skipped. -/
theorem Batch.compile_noted (options : CompileOptions) (noted : List Skipped)
    (entries : List Entry) :
    (Batch.compile options { skipped := noted } entries).1 =
      let r := ((ofEntries entries).assemble options).result
      { r with skipped := noted ++ r.skipped } := by
  have htransactions : (addAll { skipped := noted } entries).1.transactions =
      (ofEntries entries).transactions := by
    refine OrderedMap.ext ?_
    rw [transactions_addAll, ofEntries, transactions_addAll]
  have hskipped : (addAll { skipped := noted } entries).1.skipped =
      noted ++ (ofEntries entries).skipped := by
    rw [skipped_addAll, skipped_ofEntries]
  refine (result_of_transactions htransactions options).trans ?_
  rw [hskipped]
  rfl

/-! ## Files -/

namespace RecordingSource

variable {source : RecordingSource} {paths : List String} {path : String}

/-- The document that a file holds. -/
def document (source : RecordingSource) (path : String) : Except Fault Json :=
  (source.read path).bind fun bytes => Recording.parseBytes bytes (tcodeOfSource path)

/-- The documents of those files that hold one, under their paths. -/
def documents (source : RecordingSource) (paths : List String) : Entries Json :=
  paths.filterMap fun path => (source.document path).toOption.map fun v => (path, v)

/-- What is noted of the files that hold no document. -/
def unreadable (source : RecordingSource) (paths : List String) : List Skipped :=
  paths.filterMap fun path =>
    match source.document path with
    | .error (.malformed cause) => some ⟨tcodeOfSource path, path, cause.message⟩
    | _ => none

/-- A file holds a document or is refused. -/
def Settles (source : RecordingSource) (path : String) : Prop :=
  (∃ v, source.document path = .ok v) ∨ ∃ cause, source.document path = .error (.malformed cause)

theorem readEntries_cons (source : RecordingSource) (b : Batch) (entries : List Entry)
    (path : String) (rest : List String) :
    (readEntries source b entries (path :: rest)).outcome =
      match source.document path with
      | .ok v => (readEntries source b (entries ++ [Entry.ofDocument (path, v)]) rest).outcome
      | .error (.malformed cause) =>
        (readEntries source (b.skip ⟨tcodeOfSource path, path, cause.message⟩) entries rest).outcome
      | .error fault => .error fault := by
  simp only [readEntries, document]
  split <;> simp_all [Run.fail, Entry.ofDocument]

/-- Files that settle are read to their end. -/
theorem readEntries_outcome (h : ∀ path ∈ paths, source.Settles path) (b : Batch)
    (entries : List Entry) :
    (readEntries source b entries paths).outcome =
      .ok ({ b with skipped := b.skipped ++ source.unreadable paths },
        entries ++ (source.documents paths).map Entry.ofDocument) := by
  induction paths generalizing b entries with
  | nil =>
    simp only [unreadable, documents, List.filterMap_nil, List.map_nil, List.append_nil]
    rfl
  | cons path rest ih =>
    have hrest : ∀ other ∈ rest, source.Settles other :=
      fun other hother => h other (List.mem_cons_of_mem _ hother)
    rw [readEntries_cons]
    rcases h path (List.mem_cons_self ..) with ⟨v, hv⟩ | ⟨cause, hcause⟩
    · simp [hv, ih hrest, unreadable, documents, Except.toOption]
    · simp [hcause, ih hrest, unreadable, documents, Except.toOption, Batch.skip]

/-- A file that does not settle stops the reading, if none before it has. -/
theorem exists_readEntries_error (hpath : path ∈ paths) (h : ¬ source.Settles path) (b : Batch)
    (entries : List Entry) :
    ∃ fault, (readEntries source b entries paths).outcome = .error fault := by
  induction paths generalizing b entries with
  | nil => cases hpath
  | cons first rest ih =>
    rw [readEntries_cons]
    by_cases hfirst : source.Settles first
    · have hrest : path ∈ rest := by
        rcases List.mem_cons.1 hpath with rfl | hrest
        · exact absurd hfirst h
        · exact hrest
      rcases hfirst with ⟨v, hv⟩ | ⟨cause, hcause⟩
      · rw [hv]
        exact ih hrest ..
      · rw [hcause]
        exact ih hrest ..
    · split
      · rename_i v hv
        exact absurd (.inl ⟨v, hv⟩) hfirst
      · rename_i cause hcause
        exact absurd (.inr ⟨cause, hcause⟩) hfirst
      · exact ⟨_, rfl⟩

theorem document_eq {bytes : List UInt8} (hread : source.read path = .ok bytes) :
    source.document path = Recording.parseBytes bytes (tcodeOfSource path) := by
  rw [document, hread]
  rfl

/-- The one content of a file that does not settle. -/
theorem settles_iff {bytes : List UInt8} (hread : source.read path = .ok bytes) :
    source.Settles path ↔ ∀ n, source.document path ≠ .error (.oversizedInteger n) := by
  have hends := Recording.ends_parseBytes bytes (tcodeOfSource path)
  rw [Settles, document_eq hread]
  generalize Recording.parseBytes bytes (tcodeOfSource path) = answer at hends ⊢
  cases hends with
  | document v => exact iff_of_true (.inl ⟨v, rfl⟩) nofun
  | refused cause _ => exact iff_of_true (.inr ⟨cause, rfl⟩) nofun
  | oversized n _ _ => exact iff_of_false (by rintro (⟨_, h⟩ | ⟨_, h⟩) <;> cases h) fun h => h n rfl

/-! ## What the files hold -/

theorem keys_documents (source : RecordingSource) (paths : List String) :
    (Entries.keys (source.documents paths)).Sublist paths := by
  induction paths with
  | nil => exact .slnil
  | cons path rest ih =>
    rw [documents, List.filterMap_cons]
    cases source.document path with
    | ok v => exact ih.cons_cons path
    | error fault => exact ih.cons path

theorem mem_documents {v : Json} : (path, v) ∈ source.documents paths ↔
    path ∈ paths ∧ source.document path = .ok v := by
  simp only [documents, List.mem_filterMap, Option.map_eq_some_iff, Prod.mk.injEq]
  constructor
  · rintro ⟨other, hother, u, hu, rfl, rfl⟩
    refine ⟨hother, ?_⟩
    cases hdocument : source.document other <;> simp_all [Except.toOption]
  · rintro ⟨hpath, hv⟩
    exact ⟨path, hpath, v, by rw [hv]; rfl, rfl, rfl⟩

theorem sources_unreadable (source : RecordingSource) (paths : List String) :
    ((source.unreadable paths).map Skipped.source).Sublist paths := by
  induction paths with
  | nil => exact .slnil
  | cons path rest ih =>
    rw [unreadable, List.filterMap_cons]
    split
    · exact ih.cons path
    · rename_i skipped hskipped
      split at hskipped
      · obtain rfl := Option.some.inj hskipped
        exact ih.cons_cons path
      · cases hskipped

theorem mem_sources_unreadable : path ∈ (source.unreadable paths).map Skipped.source ↔
    path ∈ paths ∧ ∃ cause, source.document path = .error (.malformed cause) := by
  simp only [unreadable, List.mem_map, List.mem_filterMap]
  constructor
  · rintro ⟨skipped, ⟨other, hother, hskipped⟩, rfl⟩
    split at hskipped
    · rename_i cause hcause
      obtain rfl := Option.some.inj hskipped
      exact ⟨hother, cause, hcause⟩
    · cases hskipped
  · rintro ⟨hpath, cause, hcause⟩
    exact ⟨⟨tcodeOfSource path, path, cause.message⟩, ⟨path, hpath, by rw [hcause]⟩, rfl⟩

end RecordingSource

/-! ## Compiled sources -/

section

variable {options : CompileOptions} {source : RecordingSource} {paths : List String}
  {path : String}

/-- The result for a source: that of its documents, with the unreadable files skipped first. -/
def CompileResult.ofSource (options : CompileOptions) (source : RecordingSource)
    (paths : List String) : CompileResult :=
  let r := (compileDocuments options (.ofList (source.documents paths))).1
  { r with skipped := source.unreadable paths ++ r.skipped }

theorem entries_documents (source : RecordingSource) (hn : paths.Nodup) :
    (OrderedMap.ofList (source.documents paths)).entries = source.documents paths := by
  rw [OrderedMap.ofList_entries (hn.sublist (source.keys_documents paths))]

theorem compileSource_eq (options : CompileOptions) (hlist : source.list = .ok paths) :
    (compileSource options source).outcome =
      (readEntries source {} [] paths).outcome.map fun read =>
        (read.1.compile options read.2).1 := by
  simp only [compileSource, hlist, Run.outcome_bind, Run.ofExcept, Except.bind]
  cases (readEntries source {} [] paths).outcome <;> rfl

theorem compileSource_outcome (options : CompileOptions) (hlist : source.list = .ok paths)
    (hn : paths.Nodup) (h : ∀ path ∈ paths, source.Settles path) :
    (compileSource options source).outcome = .ok (.ofSource options source paths) := by
  have hcompile := Batch.compile_noted options (source.unreadable paths)
    ((source.documents paths).map Entry.ofDocument)
  rw [compileSource_eq options hlist, source.readEntries_outcome h, CompileResult.ofSource,
    compileDocuments_eq, entries_documents source hn]
  simpa [Except.map] using hcompile

/-- A source is compiled exactly if all its files settle. -/
theorem exists_compileSource_iff (options : CompileOptions) (hlist : source.list = .ok paths)
    (hn : paths.Nodup) :
    (∃ result, (compileSource options source).outcome = .ok result) ↔
      ∀ path ∈ paths, source.Settles path := by
  constructor
  · rintro ⟨result, hresult⟩ path hpath
    by_contra hstops
    obtain ⟨fault, hfault⟩ := source.exists_readEntries_error hpath hstops {} []
    rw [compileSource_eq options hlist, hfault] at hresult
    cases hresult
  · exact fun h => ⟨_, compileSource_outcome options hlist hn h⟩

/-- A file that holds a document has the fate of the document, with the unreadable files skipped
or not. -/
theorem hasFate_ofSource_iff {v : Json} (hdocument : source.document path = .ok v) (fate : Fate) :
    HasFate options (.ofList (source.documents paths)) (.ofSource options source paths) (path, v)
        fate ↔
      HasFate options (.ofList (source.documents paths))
        (compileDocuments options (.ofList (source.documents paths))).1 (path, v) fate := by
  cases fate with
  | skipped =>
    -- the one fate that looks at what was skipped
    have hreadable : path ∉ (source.unreadable paths).map Skipped.source := by
      rw [RecordingSource.mem_sources_unreadable, hdocument]
      rintro ⟨_, _, h⟩
      cases h
    simp only [HasFate, CompileResult.ofSource, List.map_append, List.count_append,
      List.count_eq_zero_of_not_mem hreadable, Nat.zero_add]
  | replaced => exact Iff.rfl
  | owner => exact Iff.rfl

theorem existsUnique_fate_of_document {v : Json} (hn : paths.Nodup) (hpath : path ∈ paths)
    (hdocument : source.document path = .ok v) :
    ∃! fate, HasFate options (.ofList (source.documents paths))
      (.ofSource options source paths) (path, v) fate := by
  simp only [hasFate_ofSource_iff hdocument]
  refine existsUnique_fate options ?_
  rw [entries_documents source hn]
  exact RecordingSource.mem_documents.2 ⟨hpath, hdocument⟩

/-- A file that holds no document is skipped once. -/
theorem count_skipped_of_refused {cause : Malformed} (hn : paths.Nodup) (hpath : path ∈ paths)
    (hrefused : source.document path = .error (.malformed cause)) :
    ((CompileResult.ofSource options source paths).skipped.map Skipped.source).count path = 1 := by
  have hnoted : path ∈ (source.unreadable paths).map Skipped.source :=
    RecordingSource.mem_sources_unreadable.2 ⟨hpath, cause, hrefused⟩
  have hlater : path ∉ (compileDocuments options (.ofList (source.documents paths))).1.skipped.map
      Skipped.source := by
    intro hmem
    obtain ⟨⟨other, v⟩, hentry, rfl⟩ := List.mem_map.1
      ((sublist_skipped options (.ofList (source.documents paths))).subset hmem)
    rw [entries_documents source hn] at hentry
    have hv := (RecordingSource.mem_documents.1 hentry).2
    rw [hrefused] at hv
    cases hv
  rw [CompileResult.ofSource, List.map_append, List.count_append,
    List.count_eq_one_of_mem (hn.sublist (source.sources_unreadable paths)) hnoted,
    List.count_eq_zero_of_not_mem hlater]

/-- Files without runs of too many digits settle. -/
theorem settles_of_short_runs {bytes : List UInt8} (hread : source.read path = .ok bytes)
    (h : ∀ n, Text.integerDigitLimit < n → ¬ Json.HasRun n (Recording.textOf bytes)) :
    source.Settles path := by
  rw [RecordingSource.settles_iff hread, RecordingSource.document_eq hread]
  intro n hn
  have hends := Recording.ends_parseBytes bytes (tcodeOfSource path)
  rw [hn] at hends
  cases hends with
  | oversized _ hlong hrun => exact h n hlong hrun

end

/-! ## The strict run -/

namespace Strict

section

variable (limit : Nat)

/-- The document that bytes hold. A text is read as far as it is sound, and has to nest no
deeper there than reading goes down. -/
def parseBytes (bytes : List UInt8) (tcode : String) : Except Stop Json :=
  if Json.nesting (Json.reached (Recording.textOf bytes)) ≤ limit then
    (Recording.parseBytes bytes tcode).mapError .fault
  else .error .unshowable

def document (source : RecordingSource) (path : String) : Except Stop Json := do
  let bytes ← (source.read path).mapError .fault
  parseBytes limit bytes (tcodeOfSource path)

/-- Reads the recordings of a source; only a file that holds no document is skipped. -/
def readEntries (source : RecordingSource) (b : Batch) (entries : List Entry) :
    List String → Except Stop (Batch × List Entry)
  | [] => .ok (b, entries)
  | path :: rest =>
    match document limit source path with
    | .ok v => readEntries source b (entries ++ [Entry.ofDocument (path, v)]) rest
    | .error (.fault (.malformed cause)) =>
      readEntries source (b.skip ⟨tcodeOfSource path, path, cause.message⟩) entries rest
    | .error stop => .error stop

def compileSource (options : CompileOptions) (source : RecordingSource) :
    Except Stop CompileResult := do
  let paths ← source.list.mapError .fault
  let (b, entries) ← readEntries limit source {} [] paths
  compile limit options b entries

end

variable {limit : Nat} {source : RecordingSource} {paths : List String} {path : String}

/-- The files of a source hold texts that nest no deeper than reading goes down. -/
def Shallow (limit : Nat) (source : RecordingSource) (paths : List String) : Prop :=
  ∀ path ∈ paths, ∀ bytes, source.read path = .ok bytes →
    Json.nesting (Recording.textOf bytes) ≤ limit

theorem document_eq
    (h : ∀ bytes, source.read path = .ok bytes → Json.nesting (Recording.textOf bytes) ≤ limit) :
    document limit source path = (source.document path).mapError .fault := by
  unfold document RecordingSource.document
  cases hread : source.read path with
  | error fault => rfl
  | ok bytes =>
    have hreached := (Json.nesting_reached_le (Recording.textOf bytes)).trans (h bytes hread)
    exact if_pos hreached

theorem readEntries_eq (h : Shallow limit source paths) (b : Batch) (entries : List Entry) :
    readEntries limit source b entries paths =
      (ReplayFlow.readEntries source b entries paths).outcome.mapError .fault := by
  induction paths generalizing b entries with
  | nil => rfl
  | cons path rest ih =>
    obtain ⟨hpath, hrest⟩ := List.forall_mem_cons.1 h
    rw [readEntries, document_eq hpath, RecordingSource.readEntries_cons]
    cases source.document path with
    | ok v => exact ih hrest ..
    | error fault =>
      cases fault with
      | malformed cause => exact ih hrest ..
      | _ => rfl

/-- What a file holds can be written out where writing goes as deep as its text. -/
theorem showable_of_document {v : Json}
    (h : ∀ bytes, source.read path = .ok bytes → Json.nesting (Recording.textOf bytes) ≤ limit)
    (hv : source.document path = .ok v) : v.Showable limit := by
  unfold RecordingSource.document at hv
  cases hread : source.read path with
  | error fault =>
    rw [hread] at hv
    cases hv
  | ok bytes =>
    rw [hread] at hv
    have hnesting := h bytes hread
    simp only [Except.bind, Recording.parseBytes, Recording.textOf] at hv hnesting
    cases hdecode : Utf8.decodeMarked bytes with
    | error failure =>
      rw [hdecode] at hv
      cases hv
    | ok text =>
      simp only [hdecode, Recording.parseChars] at hv hnesting
      split at hv
      · rename_i hparse
        cases hv
        exact Json.showable_of_parseAs hparse hnesting
      · cases hv
      · cases hv

/-- Reading adds documents that can be written out, and no transaction. -/
theorem showable_of_readEntries (h : Shallow limit source paths) {b : Batch} {entries : List Entry}
    (hentries : ∀ e ∈ entries, e.document.Showable limit) {read : Batch × List Entry}
    (hread : (ReplayFlow.readEntries source b entries paths).outcome = .ok read) :
    read.1.transactions = b.transactions ∧ ∀ e ∈ read.2, e.document.Showable limit := by
  induction paths generalizing b entries with
  | nil =>
    cases hread
    exact ⟨rfl, hentries⟩
  | cons path rest ih =>
    obtain ⟨hpath, hrest⟩ := List.forall_mem_cons.1 h
    rw [RecordingSource.readEntries_cons] at hread
    split at hread
    · rename_i v hv
      refine ih hrest ?_ hread
      exact List.forall_mem_append.2 ⟨hentries,
        List.forall_mem_singleton.2 (showable_of_document hpath hv)⟩
    · have hskipped := ih hrest hentries hread
      exact hskipped
    · cases hread

/-- **The strict run comes to what compilation comes to**, for files whose texts nest no deeper
than reading and writing go down. -/
theorem compileSource_eq (hlist : source.list = .ok paths) (h : Shallow limit source paths)
    (options : CompileOptions) :
    compileSource limit options source =
      (ReplayFlow.compileSource options source).outcome.mapError .fault := by
  rw [ReplayFlow.compileSource_eq options hlist, compileSource, hlist]
  change (readEntries limit source {} [] paths >>= _) = _
  rw [readEntries_eq h]
  cases hread : (ReplayFlow.readEntries source {} [] paths).outcome with
  | error fault => rfl
  | ok read =>
    obtain ⟨htransactions, hshowable⟩ :=
      showable_of_readEntries h (List.forall_mem_nil _) hread
    refine compile_eq (fun entry hentry => ?_) hshowable options
    rw [htransactions] at hentry
    cases hentry

end Strict

/-- **Only a long integer is fatal**, in texts that nest no deeper than reading and writing go
down. Reading a document ends with it, with a refusal that names the transaction, or at an integer
of more than 4300 digits. A source whose files can be read is compiled exactly if no file ends in
the last way, and then each file is skipped once, or its document is skipped, replaced or owns a
flow. The strict run, which stops where a text nests too deep and takes no fault of a document for
a skip, comes to the same whatever bound the texts keep to. -/
theorem compileSource_settles (options : CompileOptions) {source : RecordingSource}
    {paths : List String} (hlist : source.list = .ok paths) (hn : paths.Nodup)
    (hread : ∀ path ∈ paths, ∃ bytes, source.read path = .ok bytes) :
    (∀ text tcode : String, Recording.Ends text.toList tcode (Recording.parseText text tcode)) ∧
      (∀ bytes tcode,
        Recording.Ends (Recording.textOf bytes) tcode (Recording.parseBytes bytes tcode)) ∧
      ((∃ result, (compileSource options source).outcome = .ok result) ↔
        ∀ path ∈ paths, ∀ n, source.document path ≠ .error (.oversizedInteger n)) ∧
      ((∀ path ∈ paths, ∀ bytes, source.read path = .ok bytes →
          ∀ n, Text.integerDigitLimit < n → ¬ Json.HasRun n (Recording.textOf bytes)) →
        ∃ result, (compileSource options source).outcome = .ok result) ∧
      (∀ result, (compileSource options source).outcome = .ok result → ∀ path ∈ paths,
        (∃ cause, source.document path = .error (.malformed cause) ∧
          (result.skipped.map Skipped.source).count path = 1) ∨
        ∃ v, source.document path = .ok v ∧
          ∃! fate, HasFate options (.ofList (source.documents paths)) result (path, v) fate) ∧
      ∀ limit, Strict.Shallow limit source paths →
        Strict.compileSource limit options source =
          (compileSource options source).outcome.mapError .fault := by
  have hcompiles := exists_compileSource_iff options hlist hn
  refine ⟨Recording.ends_parseText, Recording.ends_parseBytes, hcompiles.trans ?_, fun h => ?_,
    fun result hresult path hpath => ?_, fun _ h => Strict.compileSource_eq hlist h options⟩
  · refine forall₂_congr fun path hpath => ?_
    obtain ⟨bytes, hbytes⟩ := hread path hpath
    exact RecordingSource.settles_iff hbytes
  · refine hcompiles.2 fun path hpath => ?_
    obtain ⟨bytes, hbytes⟩ := hread path hpath
    exact settles_of_short_runs hbytes (h path hpath bytes hbytes)
  · have hsettles := hcompiles.1 ⟨result, hresult⟩
    rw [compileSource_outcome options hlist hn hsettles, Except.ok.injEq] at hresult
    subst hresult
    rcases hsettles path hpath with ⟨v, hv⟩ | ⟨cause, hcause⟩
    · exact .inr ⟨v, hv, existsUnique_fate_of_document hn hpath hv⟩
    · exact .inl ⟨cause, hcause, count_skipped_of_refused hn hpath hcause⟩

namespace Sample

/-- A byte that starts no character, an object that is not closed, and an empty object. -/
def torn : RecordingSource where
  list := .ok ["byte.json", "open.json", "empty.json"]
  read path := .ok <|
    if path = "byte.json" then [0xFF] else if path = "open.json" then [0x7B] else [0x7B, 0x7D]

/-- An empty object, and an integer of `n` digits. -/
def withInteger (n : Nat) : RecordingSource where
  list := .ok ["empty.json", "long.json"]
  read path := .ok (if path = "long.json" then List.replicate n 0x31 else [0x7B, 0x7D])

theorem compileSource_withInteger {n : Nat} (h : Text.integerDigitLimit < n)
    (options : CompileOptions) :
    (compileSource options (withInteger n)).outcome = .error (.oversizedInteger n) := by
  have hlist : (withInteger n).list = .ok ["empty.json", "long.json"] := rfl
  have hread : (withInteger n).read "empty.json" = .ok [0x7B, 0x7D] := by simp [withInteger]
  have hempty : (withInteger n).document "empty.json" = .ok (.obj []) :=
    (RecordingSource.document_eq hread).trans rfl
  have hlong : (withInteger n).document "long.json" = .error (.oversizedInteger n) :=
    (RecordingSource.document_eq rfl).trans (Recording.parseBytes_replicate h _)
  rw [compileSource_eq _ hlist, RecordingSource.readEntries_cons, hempty]
  simp only [RecordingSource.readEntries_cons, hlong, Except.map]

end Sample

theorem compileSource_settles_torn :
    let options : CompileOptions := ⟨"2024-01-01", .null, false, []⟩
    Sample.torn.list = .ok ["byte.json", "open.json", "empty.json"] ∧
      ∃ result, (compileSource options Sample.torn).outcome = .ok result ∧
        Strict.compileSource 1 options Sample.torn = .ok result ∧
        (∀ path ∈ ["byte.json", "open.json"],
          (result.skipped.map Skipped.source).count path = 1) ∧
        ∃ v, ∃! fate, HasFate options
          (.ofList (Sample.torn.documents ["byte.json", "open.json", "empty.json"])) result
          ("empty.json", v) fate := by
  intro options
  have hbyte : Sample.torn.document "byte.json" =
      .error (.malformed (.notUtf8 "byte" ⟨0, 1, 0xFF, .startByte⟩)) := by rfl
  have hopen : Sample.torn.document "open.json" =
      .error (.malformed (.notJson "open" .propertyName 1 "\x7b")) := by rfl
  have hempty : Sample.torn.document "empty.json" = .ok (.obj []) := by rfl
  have hlist : Sample.torn.list = .ok ["byte.json", "open.json", "empty.json"] := rfl
  obtain ⟨_, _, hcompiles, _, hfates, hstrict⟩ :=
    compileSource_settles options hlist (by decide) fun _ _ => ⟨_, rfl⟩
  have hsettled : ∀ path ∈ ["byte.json", "open.json", "empty.json"], ∀ n,
      Sample.torn.document path ≠ .error (.oversizedInteger n) := by
    simp [hbyte, hopen, hempty]
  have hshallow : Strict.Shallow 1 Sample.torn ["byte.json", "open.json", "empty.json"] := by
    simp only [Strict.Shallow, List.forall_mem_cons]
    refine ⟨?_, ?_, ?_, List.forall_mem_nil _⟩ <;> rintro _ ⟨⟩ <;> decide
  obtain ⟨result, hresult⟩ := hcompiles.2 hsettled
  have hsame := hstrict 1 hshallow
  rw [hresult] at hsame
  refine ⟨hlist, result, hresult, hsame, ?_, ?_⟩
  · intro path hpath
    rcases hfates result hresult path (List.mem_append_left ["empty.json"] hpath) with
      ⟨_, _, hcount⟩ | ⟨v, hv, _⟩
    · exact hcount
    · rcases List.mem_pair.1 hpath with rfl | rfl
      · rw [hbyte] at hv
        cases hv
      · rw [hopen] at hv
        cases hv
  · rcases hfates result hresult "empty.json" (by simp) with ⟨_, hrefused, _⟩ | ⟨v, _, hfate⟩
    · rw [hempty] at hrefused
      cases hrefused
    · exact ⟨v, hfate⟩

/-- A whole batch is lost to one file. -/
theorem compileSource_stops :
    Recording.parseText (String.ofList (List.replicate 4301 '1')) "zt" =
        .error (.oversizedInteger 4301) ∧
      (compileSource ⟨"2024-01-01", .null, false, []⟩ (Sample.withInteger 4301)).outcome =
        .error (.oversizedInteger 4301) :=
  ⟨Recording.parseText_replicate (by decide) _, Sample.compileSource_withInteger (by decide) _⟩

end ReplayFlow
