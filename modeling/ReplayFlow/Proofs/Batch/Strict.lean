import ReplayFlow.Proofs.Batch.Legacy
import ReplayFlow.Proofs.Flow.Shown
import ReplayFlow.Proofs.Recording.Strict

/-!
The run in which only malformed documents are skipped. Compilation takes every
fault of a recording for a refusal, and finds nothing wrong with a flow that it
cannot check. Here any other fault stops the run, in reading, in assembling and
in checking, and so does a value that is shown but cannot be written out: it nests
deeper than writing goes down, or has an integer of more than 4300 digits. Where the
documents can be written out nothing stops it, whatever else they hold, and the run
ends with the result of the compilation (`Strict.compile_eq`,
`Strict.compileDocuments_eq`).
-/

namespace ReplayFlow

/-! ## The strict run -/

namespace Strict

section

variable (limit : Nat)

/-- Takes in one entry; only a malformed document is skipped. -/
def add (b : Batch) (e : Entry) : Except Stop Batch :=
  match normalize limit (Recording.ofDocument e.document e.tcode) with
  | .ok t => .ok { b with transactions := b.transactions.insert t.analyze.tcode t.analyze }
  | .error (.fault (.malformed cause)) =>
    .ok (b.skip ⟨e.faultTcode (.malformed cause), e.source, cause.message⟩)
  | .error stop => .error stop

/-- The action and the references of a step have to be writable, whether they are shown or
not. -/
def showStep (step : FlowStep) : Except Stop PUnit :=
  ("action" :: referenceKeys).forM fun key =>
    (display limit (Entries.field step.body key)).map fun _ => ⟨⟩

/-- What is wrong in a flow. -/
def validate (flow : Json) : Except Stop (List Violation) := do
  let steps ← (Flow.steps flow).mapError .fault
  steps.forM (showStep limit)
  return Flow.violationsOf steps

/-- The flow of a transaction with what is wrong in it. -/
def compileOne (date : Json) (t : Transaction) : Except Stop (Json × List Violation) := do
  (Flow.check t).mapError .fault
  let flow := (Flow.assemble date t).document
  let found ← validate limit flow
  return (flow, found)

def compileAll (date : Json) :
    Entries Transaction → Except Stop (Entries (Json × List Violation))
  | [] => .ok []
  | (tcode, t) :: rest => do
    let compiled ← compileOne limit date t
    let rest ← compileAll date rest
    return (tcode, compiled) :: rest

/-- Takes in entries and compiles the batch. -/
def compile (options : CompileOptions) (b : Batch) (entries : List Entry) :
    Except Stop CompileResult := do
  let b ← entries.foldlM (add limit) b
  let named := Alias.generate b.transactions
  let compiled ← compileAll limit options.date named.transactions.entries
  return {
    flows := .ofList (Entries.mapValues Prod.fst compiled)
    table := named.table
    violations :=
      .ofList ((Entries.mapValues Prod.snd compiled).filter fun entry => !entry.2.isEmpty)
    skipped := b.skipped
    mainFlow :=
      if options.mainFlow then
        some (Sequence.document options.today (Entries.keys compiled) named.table.stored
          options.mainFlowInfo)
      else none }

def compileDocuments (options : CompileOptions) (documents : OrderedMap Json) :
    Except Stop CompileResult :=
  compile limit options {} (documents.entries.map Entry.ofDocument)

end

end Strict

/-! ## Reading -/

namespace Strict

variable {limit : Nat} {b : Batch} {e : Entry} {entries : List Entry}

theorem add_eq (h : e.document.Showable limit) (b : Batch) : add limit b e = .ok (b.add e).1 := by
  have hread := Recording.reads_normalize e.document e.tcode
  unfold add Batch.add Entry.transaction
  rw [normalize_eq h]
  generalize (Recording.ofDocument e.document e.tcode).normalize = x at hread
  cases hread with
  | read _ => rfl
  | refused cause => rfl

theorem foldlM_add (h : ∀ e ∈ entries, e.document.Showable limit) (b : Batch) :
    entries.foldlM (add limit) b = .ok (b.addAll entries).1 := by
  induction entries generalizing b with
  | nil => rfl
  | cons e rest ih =>
    obtain ⟨he, hrest⟩ := List.forall_mem_cons.1 h
    rw [List.foldlM_cons, add_eq he, Batch.addAll_cons, ← ih hrest]
    rfl

end Strict

/-! ## Assembling -/

namespace Flow

open StepMap (Chained)

/-- The references of a chain are names. -/
theorem check_of_chained {t : Transaction} (h : Chained (legacySteps t).entries) :
    check t = .ok () := by
  refine check_of_bodies ?_
  intro entry hentry
  refine List.any_eq_false.2 ?_
  intro key hkey
  rcases StepMap.chained_cases h (legacySteps t).nodup hentry with
    ⟨_, hends⟩ | ⟨_, _, _, _, hgoes⟩
  · simp [Entries.field, hends.references key hkey, Json.isGiven]
  · rcases hgoes.reference hkey with ⟨_, hfield⟩ | ⟨_, hnone⟩
    · simp [hfield, Json.isContainer]
    · simp [Entries.field, hnone, Json.isGiven]

theorem check_of_format {t : Transaction} (h : t.format ≠ .legacy) : check t = .ok () := by
  unfold check
  split
  · rename_i hlegacy
    exact absurd hlegacy h
  · rfl

end Flow

namespace Batch

variable {limit : Nat} {b : Batch} {entries : List Entry} {e : Entry} {t : Transaction}

/-- No accepted transaction has an array or object for a reference. -/
theorem check_named (h : e.transaction = .ok t) (b : Batch) : Flow.check (b.named t) = .ok () := by
  by_cases hformat : Format.detect e.document = .legacy
  · exact Flow.check_of_chained (assemble_legacy h hformat b .null).1
  · exact Flow.check_of_format (t := b.named t) (Entry.format_of_transaction h ▸ hformat)

/-! ## Checking -/

/-- The flow of a document that can be written out shows nothing that cannot. -/
theorem allShow_named (hok : e.transaction = .ok t) (h : e.document.Showable limit) (b : Batch)
    (date : Json) : Flow.AllShow limit (Flow.assemble date (b.named t)).document := by
  obtain ⟨u, hu, rfl⟩ := Entry.transaction_eq_ok_iff.1 hok
  have hsame := Transaction.sameSteps_analyze u
  have hshape := Entry.format_of_transaction hok
  cases hformat : Format.detect e.document with
  | legacy =>
    obtain ⟨hchained, _, more, hdocument⟩ := assemble_legacy hok hformat b date
    rw [hdocument]
    exact Flow.allShow_of_chained hchained limit more
  | stepsOnly =>
    rw [hformat] at hshape
    obtain ⟨fields, records, hdocument, hfield⟩ :=
      Recording.exists_records_of_normalize hformat hu
    obtain ⟨v, hv, _, _, hsteps⟩ :=
      Recording.normalize_records (hdocument ▸ hformat) hfield e.tcode
    rw [hdocument] at hu h
    obtain rfl := Except.ok.inj (hu.symm.trans hv)
    have hrecords := h.field "steps"
    rw [hfield] at hrecords
    rw [named, Flow.assemble_nameSteps _ (by rw [hshape]; decide)]
    exact Flow.allShow_stepsOnly hshape (hsame.steps.trans hsteps)
      (fun record hrecord => hrecords.member (List.mem_map_of_mem hrecord)) date
  | contextual =>
    rw [hformat] at hshape
    obtain ⟨contexts, ⟨fields, hdocument, hfield⟩, _, _, hsteps⟩ :=
      Recording.exists_contexts_of_normalize hformat hu
    rw [hdocument] at h
    obtain ⟨n, rfl⟩ := h.exists_succ_of_obj
    have hcontexts := (h.field "steps").orElse (w := .obj [])
      (Json.showable_obj_iff.2 (List.forall_mem_nil _))
    rw [hfield] at hcontexts
    rw [named, Flow.assemble_nameSteps _ (by rw [hshape]; decide)]
    refine Flow.allShow_contextual hshape (hsame.steps.trans hsteps) ?_ date
    intro context hcontext record hrecord
    exact (hcontexts.member (List.mem_map_of_mem hcontext)).member (List.mem_map_of_mem hrecord)

/-- The transactions of a batch come from documents that can be written out. -/
def FromShowable (limit : Nat) (b : Batch) : Prop :=
  ∀ entry ∈ b.transactions.entries, ∃ e : Entry,
    e.transaction = .ok entry.2 ∧ e.document.Showable limit

theorem FromShowable.addAll (hb : b.FromShowable limit)
    (h : ∀ e ∈ entries, e.document.Showable limit) :
    (b.addAll entries).1.FromShowable limit := by
  intro entry hentry
  rw [transactions_addAll] at hentry
  rcases Entries.mem_insertAll hentry with hold | hnew
  · exact hb entry hold
  · obtain ⟨e, he, hok, _⟩ := mem_accepted.1 hnew
    exact ⟨e, hok, h e he⟩

/-- An assembled flow can be checked. -/
theorem validate_assemble (date : Json) (t : Transaction) :
    Flow.validate (Flow.assemble date t).document =
      .ok (violationsOf (Flow.assemble date t).document) := by
  obtain ⟨entries, hentries⟩ : ∃ entries, Flow.stepEntries? (Flow.assemble date t).document =
      some entries := by
    unfold Flow.assemble
    cases t.format <;> exact ⟨_, rfl⟩
  have hvalidate := Flow.validate_of_steps (Flow.steps_of_entries hentries)
  rw [violationsOf, hvalidate]
  rfl

end Batch

/-! ## The whole run -/

namespace Strict

variable {limit : Nat} {flow : Json} {t : Transaction}

theorem showStep_eq {step : FlowStep} (h : Flow.Shows limit step) :
    showStep limit step = .ok ⟨⟩ := by
  refine Except.forM_eq_ok fun key hkey => ?_
  rw [display_eq (h key hkey)]
  rfl

theorem validate_eq (h : Flow.AllShow limit flow) :
    validate limit flow = .ok (Batch.violationsOf flow) := by
  obtain ⟨entries, hentries, hshows⟩ := h
  have hsteps := Flow.steps_of_entries hentries
  have hshown := Except.forM_eq_ok fun step hstep => showStep_eq (hshows step hstep)
  rw [validate, hsteps, Batch.violationsOf, Flow.validate_of_steps hsteps]
  change ((entries.flatMap Flow.stepsAt).forM (showStep limit) >>= _) = _
  rw [hshown]
  rfl

theorem compileOne_eq {date : Json} (hcheck : Flow.check t = .ok ())
    (hshow : Flow.AllShow limit (Flow.assemble date t).document) :
    compileOne limit date t =
      .ok ((Batch.compileOne date t).flow, (Batch.compileOne date t).violations) := by
  rw [compileOne, hcheck]
  change (validate limit (Flow.assemble date t).document >>= _) = _
  rw [validate_eq hshow]
  rfl

theorem compileAll_eq {date : Json} {transactions : Entries Transaction}
    (h : ∀ entry ∈ transactions, Flow.check entry.2 = .ok () ∧
      Flow.AllShow limit (Flow.assemble date entry.2).document) :
    compileAll limit date transactions =
      .ok (Entries.mapValues (fun compiled => (compiled.flow, compiled.violations))
        (Entries.mapValues (Batch.compileOne date) transactions)) := by
  induction transactions with
  | nil => rfl
  | cons entry rest ih =>
    obtain ⟨⟨hcheck, hshow⟩, hrest⟩ := List.forall_mem_cons.1 h
    rw [compileAll, compileOne_eq hcheck hshow, ih hrest]
    rfl

/-- **The strict run comes to what compilation comes to**, in a batch and with entries whose
documents can be written out. -/
theorem compile_eq {b : Batch} {entries : List Entry} (hb : b.FromShowable limit)
    (h : ∀ e ∈ entries, e.document.Showable limit) (options : CompileOptions) :
    compile limit options b entries = .ok (b.compile options entries).1 := by
  have hnamed : ∀ entry ∈
      (Alias.generate (b.addAll entries).1.transactions).transactions.entries,
      Flow.check entry.2 = .ok () ∧
        Flow.AllShow limit (Flow.assemble options.date entry.2).document := by
    intro entry hentry
    obtain ⟨⟨tcode, t⟩, hmem, rfl⟩ := List.mem_map.1 hentry
    obtain ⟨e, hok, hshowable⟩ := hb.addAll h (tcode, t) hmem
    exact ⟨Batch.check_named hok _, Batch.allShow_named hok hshowable _ _⟩
  rw [compile, foldlM_add h]
  change (compileAll limit options.date _ >>= _) = _
  rw [compileAll_eq hnamed]
  simp only [bind, Except.bind, pure, Except.pure, Batch.compile, Batch.assemble,
    Entries.mapValues_mapValues, OrderedMap.ofList_mapValues, OrderedMap.mapValues,
    OrderedMap.keys, Entries.keys_mapValues]

/-- **The strict run ends** for documents that can be written out, with the result of the
compilation. -/
theorem compileDocuments_eq {documents : OrderedMap Json}
    (h : ∀ document ∈ documents.entries, document.2.Showable limit) (options : CompileOptions) :
    compileDocuments limit options documents =
      .ok (ReplayFlow.compileDocuments options documents).1 := by
  refine compile_eq (b := {}) nofun (fun e he => ?_) options
  obtain ⟨document, hdocument, rfl⟩ := List.mem_map.1 he
  exact h document hdocument

/-- A code that nests three deep, where writing goes down twice. -/
example : compileDocuments 2 ⟨"2024-01-01", .null, false, []⟩
    (.singleton "deep.json" (.obj [("Tcode", .arr [.arr [.arr []]])])) = .error .unshowable := rfl

end Strict

end ReplayFlow
