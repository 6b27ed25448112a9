import Mathlib.Data.List.Nodup
import ReplayFlow.Proofs.Batch.Strict

/-!
What becomes of the sources of a batch. Each is skipped, or its recording is
replaced by a later one of its transaction, or it owns the flow of its
transaction (`Fate`, `existsUnique_fate`); the skipped ones might as well not be
there (`compileDocuments_filter`). `Accounts` puts together what a result says
about the documents it was made from.
-/

namespace ReplayFlow

namespace Batch

variable {entries : List Entry} {e : Entry} {t : Transaction} {tcode : String}

/-! ## Later recordings -/

/-- Entry `e` is accepted, and an entry after it is accepted under the same code. -/
def Replaced (entries : List Entry) (e : Entry) : Prop :=
  ∃ before after t, entries = before ++ e :: after ∧ e.transaction = .ok t ∧
    ∃ later ∈ after, ∃ u, later.transaction = .ok u ∧ u.tcode = t.tcode

theorem replaced_or_survives (he : e ∈ entries) (hok : e.transaction = .ok t) :
    Replaced entries e ∨ Survives entries e t := by
  obtain ⟨before, after, hsplit⟩ := List.append_of_mem he
  by_cases hlater : ∃ later ∈ after, ∃ u, later.transaction = .ok u ∧ u.tcode = t.tcode
  · exact .inl ⟨before, after, t, hsplit, hok, hlater⟩
  · refine .inr ⟨before, after, hsplit, hok, ?_⟩
    intro later hmem u hu hcode
    exact hlater ⟨later, hmem, u, hu, hcode⟩

/-- An entry that occurs once is not both replaced and surviving. -/
theorem not_survives_of_replaced (hn : entries.Nodup) (h : Replaced entries e) :
    ¬ Survives entries e t := by
  rintro ⟨before', after', hsplit', hok', hnone⟩
  obtain ⟨before, after, u, hsplit, hok, later, hmem, v, hv, hcode⟩ := h
  rw [hsplit] at hn hsplit'
  obtain ⟨_, hcons, hdisjoint⟩ := List.nodup_append.1 hn
  have hbefore : e ∉ before := fun he => hdisjoint e he e (List.mem_cons_self ..) rfl
  have hafter : e ∉ after := (List.nodup_cons.1 hcons).1
  obtain ⟨_, _, hsame⟩ := (List.append_cons_inj_of_notMem hbefore hafter).1 hsplit'
  rw [hok, Except.ok.injEq] at hok'
  exact hnone later (hsame ▸ hmem) v hv (hcode.trans (congrArg Transaction.tcode hok'))

theorem survives_cons (h : Survives entries e t) (first : Entry) :
    Survives (first :: entries) e t := by
  obtain ⟨before, after, rfl, hok, hnone⟩ := h
  exact ⟨first :: before, after, rfl, hok, hnone⟩

/-- The last accepted entry of a code survives. -/
theorem exists_survives (he : e ∈ entries) (hok : e.transaction = .ok t) :
    ∃ last ∈ entries, ∃ u, Survives entries last u ∧ u.tcode = t.tcode := by
  induction entries generalizing e t with
  | nil => cases he
  | cons first rest ih =>
    by_cases hlater : ∃ later ∈ rest, ∃ u, later.transaction = .ok u ∧ u.tcode = t.tcode
    · obtain ⟨later, hmem, u, hu, hcode⟩ := hlater
      obtain ⟨last, hlast, v, hsurvives, hsame⟩ := ih hmem hu
      exact ⟨last, List.mem_cons_of_mem _ hlast, v, survives_cons hsurvives first,
        hsame.trans hcode⟩
    · rcases List.mem_cons.1 he with rfl | hrest
      · refine ⟨e, List.mem_cons_self .., t, ⟨[], rest, rfl, hok, ?_⟩, rfl⟩
        intro later hmem u hu hcode
        exact hlater ⟨later, hmem, u, hu, hcode⟩
      · exact absurd ⟨e, hrest, t, hok, rfl⟩ hlater

/-- The transactions of a batch are those of its survivors. -/
theorem get?_ofEntries_iff :
    (ofEntries entries).transactions.get? tcode = some t ↔
      ∃ e ∈ entries, Survives entries e t ∧ t.tcode = tcode := by
  constructor
  · intro hget
    obtain ⟨e, he, hok, rfl⟩ := exists_entry_of_get? hget
    obtain ⟨last, hlast, u, hsurvives, hcode⟩ := exists_survives he hok
    have hlatest := get?_addAll_of_survives (b := {}) hsurvives
    rw [hcode, ← ofEntries, hget, Option.some.injEq] at hlatest
    exact ⟨last, hlast, hlatest ▸ hsurvives, rfl⟩
  · rintro ⟨e, _, hsurvives, rfl⟩
    exact get?_addAll_of_survives hsurvives

/-! ## Refused recordings -/

theorem refused_cons_of_ok (h : e.transaction = .ok t) (rest : List Entry) :
    refused (e :: rest) = refused rest := by
  rw [refused, List.filterMap_cons, h]
  rfl

theorem refused_cons_of_error {skipped : Skipped} (h : e.transaction = .error skipped)
    (rest : List Entry) : refused (e :: rest) = skipped :: refused rest := by
  rw [refused, List.filterMap_cons, h]
  rfl

/-- The refusals name their sources in the order of the entries. -/
theorem sublist_sources (entries : List Entry) :
    ((refused entries).map Skipped.source).Sublist (entries.map Entry.source) := by
  induction entries with
  | nil => exact .slnil
  | cons e rest ih =>
    cases h : e.transaction with
    | ok t =>
      rw [refused_cons_of_ok h]
      exact ih.cons _
    | error skipped =>
      rw [refused_cons_of_error h, List.map_cons, List.map_cons, Entry.source_of_refused h]
      exact ih.cons_cons _

theorem mem_refused {skipped : Skipped} :
    skipped ∈ refused entries ↔ ∃ e ∈ entries, e.transaction = .error skipped := by
  rw [refused, List.mem_filterMap]
  refine exists_congr fun e => and_congr_right fun _ => ?_
  cases e.transaction <;> simp

theorem refused_eq_nil (h : ∀ e ∈ entries, ∃ t, e.transaction = .ok t) : refused entries = [] := by
  refine List.eq_nil_iff_forall_not_mem.2 ?_
  intro skipped hmem
  obtain ⟨e, he, herror⟩ := mem_refused.1 hmem
  obtain ⟨t, hok⟩ := h e he
  rw [hok] at herror
  cases herror

/-- Entries that are refused add nothing to the others. -/
theorem accepted_filter (p : Entry → Bool)
    (h : ∀ e ∈ entries, p e = false → ∃ skipped, e.transaction = .error skipped) :
    accepted (entries.filter p) = accepted entries := by
  rw [accepted, List.filterMap_filter]
  refine List.filterMap_congr ?_
  intro e he
  cases hp : p e
  · obtain ⟨skipped, herror⟩ := h e he hp
    rw [herror]
    rfl
  · rfl

/-- The result depends on what was skipped only in what it says of that. -/
theorem result_of_transactions {b c : Batch} (h : b.transactions = c.transactions)
    (options : CompileOptions) :
    (b.assemble options).result =
      { (c.assemble options).result with skipped := b.skipped } := by
  simp only [assemble, h]

end Batch

/-! ## The sources of a batch -/

/-- What may become of a source. -/
inductive Fate where
  | skipped
  | replaced
  | owner

/-- The flow that the transaction of a document has in its batch. -/
def flowOf (options : CompileOptions) (documents : OrderedMap Json) (t : Transaction) : Json :=
  (Flow.assemble options.date
    ((Batch.ofEntries (documents.entries.map Entry.ofDocument)).named t)).document

/-- The source of a document is named once among the skipped, or its recording is replaced by a
later one, or it owns the flow of its transaction. -/
def HasFate (options : CompileOptions) (documents : OrderedMap Json) (result : CompileResult)
    (document : String × Json) : Fate → Prop
  | .skipped => (result.skipped.map Skipped.source).count document.1 = 1
  | .replaced =>
    Batch.Replaced (documents.entries.map Entry.ofDocument) (Entry.ofDocument document)
  | .owner => ∃ t,
    Batch.Survives (documents.entries.map Entry.ofDocument) (Entry.ofDocument document) t ∧
      result.flows.get? t.tcode = some (flowOf options documents t)

/-- How a result accounts for the documents it was made from. The strict run ends with it if the
documents can be written out: where writing goes down as deep as they nest, and none has an
integer of more than 4300 digits. -/
structure Accounts (options : CompileOptions) (documents : OrderedMap Json)
    (result : CompileResult) : Prop where
  ends : ∀ limit, (∀ document ∈ documents.entries, document.2.Showable limit) →
    Strict.compileDocuments limit options documents = .ok result
  order : (result.skipped.map Skipped.source).Sublist documents.keys
  fate : ∀ document ∈ documents.entries, ∃! fate, HasFate options documents result document fate
  codes : result.flows.keys =
    (Entries.keys (Batch.accepted (documents.entries.map Entry.ofDocument))).eraseDups
  owned : ∀ tcode flow, result.flows.get? tcode = some flow →
    ∃ document ∈ documents.entries, ∃ t,
      Batch.Survives (documents.entries.map Entry.ofDocument) (Entry.ofDocument document) t ∧
        t.tcode = tcode ∧ flow = flowOf options documents t
  violations : ∀ tcode found, result.violations.get? tcode = some found ↔
    found ≠ [] ∧ ∃ flow, result.flows.get? tcode = some flow ∧ Flow.validate flow = .ok found
  unaffected :
    (compileDocuments options (documents.filter fun document =>
      document.1 ∉ result.skipped.map Skipped.source)).1 = { result with skipped := [] }

section

variable {options : CompileOptions} {documents : OrderedMap Json} {document : String × Json}

theorem sources_entries (documents : OrderedMap Json) :
    (documents.entries.map Entry.ofDocument).map Entry.source = documents.keys := by
  rw [List.map_map]
  rfl

theorem nodup_entries (documents : OrderedMap Json) :
    (documents.entries.map Entry.ofDocument).Nodup := by
  refine List.Nodup.of_map Entry.source ?_
  rw [sources_entries]
  exact documents.nodup

theorem skipped_compileDocuments (options : CompileOptions) (documents : OrderedMap Json) :
    (compileDocuments options documents).1.skipped =
      Batch.refused (documents.entries.map Entry.ofDocument) :=
  Batch.skipped_ofEntries _

theorem sublist_skipped (options : CompileOptions) (documents : OrderedMap Json) :
    ((compileDocuments options documents).1.skipped.map Skipped.source).Sublist documents.keys := by
  rw [skipped_compileDocuments, ← sources_entries]
  exact Batch.sublist_sources _

/-- The source of a document is skipped just when the document is refused. -/
theorem mem_skipped_iff (hmem : document ∈ documents.entries) :
    document.1 ∈ (compileDocuments options documents).1.skipped.map Skipped.source ↔
      ∃ skipped, (Entry.ofDocument document).transaction = .error skipped := by
  rw [skipped_compileDocuments, List.mem_map]
  constructor
  · rintro ⟨skipped, hskipped, hsource⟩
    obtain ⟨e, he, herror⟩ := Batch.mem_refused.1 hskipped
    obtain ⟨other, hother, rfl⟩ := List.mem_map.1 he
    have hsame : other.1 = document.1 := (Entry.source_of_refused herror).symm.trans hsource
    exact ⟨skipped, OrderedMap.eq_of_key_eq hother hmem hsame ▸ herror⟩
  · rintro ⟨skipped, herror⟩
    exact ⟨skipped, Batch.mem_refused.2 ⟨_, List.mem_map_of_mem hmem, herror⟩,
      Entry.source_of_refused herror⟩

theorem hasFate_skipped_iff (options : CompileOptions) (hmem : document ∈ documents.entries) :
    HasFate options documents (compileDocuments options documents).1 document .skipped ↔
      ∃ skipped, (Entry.ofDocument document).transaction = .error skipped := by
  have hnodup := documents.nodup.sublist (sublist_skipped options documents)
  rw [← mem_skipped_iff hmem, HasFate]
  constructor
  · intro hcount
    exact List.count_pos_iff.1 (hcount ▸ Nat.zero_lt_one)
  · exact List.count_eq_one_of_mem hnodup

theorem get?_flows_of_survives {t : Transaction}
    (h : Batch.Survives (documents.entries.map Entry.ofDocument) (Entry.ofDocument document) t) :
    (compileDocuments options documents).1.flows.get? t.tcode =
      some (flowOf options documents t) := by
  rw [compileDocuments_eq]
  exact Batch.flow_of_survives h options

/-- **Each source has one fate.** -/
theorem existsUnique_fate (options : CompileOptions) (hmem : document ∈ documents.entries) :
    ∃! fate, HasFate options documents (compileDocuments options documents).1 document fate := by
  have hskipped := hasFate_skipped_iff options hmem
  have hentry : Entry.ofDocument document ∈ documents.entries.map Entry.ofDocument :=
    List.mem_map_of_mem hmem
  cases htransaction : (Entry.ofDocument document).transaction with
  | error skipped =>
    refine ⟨.skipped, hskipped.2 ⟨skipped, htransaction⟩, ?_⟩
    rintro (_ | _ | _) hfate
    · rfl
    · obtain ⟨_, _, _, _, hok, _⟩ := hfate
      rw [htransaction] at hok
      cases hok
    · obtain ⟨_, hsurvives, _⟩ := hfate
      have hok := Batch.transaction_of_survives hsurvives
      rw [htransaction] at hok
      cases hok
  | ok t =>
    have haccepted : ¬ HasFate options documents (compileDocuments options documents).1 document
        .skipped := by
      rw [hskipped, htransaction]
      rintro ⟨skipped, herror⟩
      cases herror
    have hexclusive : ∀ u, Batch.Replaced (documents.entries.map Entry.ofDocument)
        (Entry.ofDocument document) → ¬ Batch.Survives (documents.entries.map Entry.ofDocument)
        (Entry.ofDocument document) u :=
      fun _ => Batch.not_survives_of_replaced (nodup_entries documents)
    rcases Batch.replaced_or_survives hentry htransaction with hreplaced | hsurvives
    · refine ⟨.replaced, hreplaced, ?_⟩
      rintro (_ | _ | _) hfate
      · exact absurd hfate haccepted
      · rfl
      · obtain ⟨u, hsurvives, _⟩ := hfate
        exact absurd hsurvives (hexclusive u hreplaced)
    · refine ⟨.owner, ⟨t, hsurvives, get?_flows_of_survives hsurvives⟩, ?_⟩
      rintro (_ | _ | _) hfate
      · exact absurd hfate haccepted
      · exact absurd hsurvives (hexclusive t hfate)
      · rfl

theorem keys_flows (options : CompileOptions) (documents : OrderedMap Json) :
    (compileDocuments options documents).1.flows.keys =
      (Entries.keys (Batch.accepted (documents.entries.map Entry.ofDocument))).eraseDups := by
  have hkeys : (compileDocuments options documents).1.flows.keys =
      (Batch.ofEntries (documents.entries.map Entry.ofDocument)).transactions.keys := by
    rw [compileDocuments_eq]
    simp only [Batch.assemble, Alias.generate, OrderedMap.keys_mapValues]
  rw [hkeys, Batch.transactions_ofEntries]
  exact Entries.keys_ofList _

theorem owner_of_flow {tcode : String} {flow : Json}
    (h : (compileDocuments options documents).1.flows.get? tcode = some flow) :
    ∃ document ∈ documents.entries, ∃ t,
      Batch.Survives (documents.entries.map Entry.ofDocument) (Entry.ofDocument document) t ∧
        t.tcode = tcode ∧ flow = flowOf options documents t := by
  rw [compileDocuments_eq, Batch.get?_flows, Option.map_eq_some_iff] at h
  obtain ⟨t, hget, rfl⟩ := h
  obtain ⟨e, he, hsurvives, htcode⟩ := Batch.get?_ofEntries_iff.1 hget
  obtain ⟨document, hdocument, rfl⟩ := List.mem_map.1 he
  exact ⟨document, hdocument, t, hsurvives, htcode, rfl⟩

theorem get?_violations_iff {tcode : String} {found : List Violation} :
    (compileDocuments options documents).1.violations.get? tcode = some found ↔
      found ≠ [] ∧ ∃ flow, (compileDocuments options documents).1.flows.get? tcode = some flow ∧
        Flow.validate flow = .ok found := by
  rw [compileDocuments_eq, Batch.get?_violations, Batch.get?_flows]
  cases (Batch.ofEntries (documents.entries.map Entry.ofDocument)).transactions.get? tcode with
  | none => simp
  | some t =>
    have hvalidate := Batch.validate_assemble options.date
      ((Batch.ofEntries (documents.entries.map Entry.ofDocument)).named t)
    rw [Option.map_some, Option.map_some, Option.filter_some]
    constructor
    · intro hfound
      split at hfound
      · rename_i hnonempty
        cases hfound
        exact ⟨by simpa using hnonempty, _, rfl, hvalidate⟩
      · cases hfound
    · rintro ⟨hne, flow, hflow, hfound⟩
      cases hflow
      have hsame : Batch.violationsOf (Flow.assemble options.date
          ((Batch.ofEntries (documents.entries.map Entry.ofDocument)).named t)).document = found :=
        Except.ok.inj (hvalidate.symm.trans hfound)
      rw [← hsame] at hne ⊢
      exact if_pos (by simpa [Batch.compileOne] using hne)

/-- The skipped sources might as well not be there. -/
theorem compileDocuments_filter (options : CompileOptions) (documents : OrderedMap Json) :
    (compileDocuments options (documents.filter fun document =>
      document.1 ∉ (compileDocuments options documents).1.skipped.map Skipped.source)).1 =
      { (compileDocuments options documents).1 with skipped := [] } := by
  have hrefused : ∀ e ∈ documents.entries.map Entry.ofDocument,
      (e.source ∈ (compileDocuments options documents).1.skipped.map Skipped.source ↔
        ∃ skipped, e.transaction = .error skipped) := by
    intro e he
    obtain ⟨document, hmem, rfl⟩ := List.mem_map.1 he
    exact mem_skipped_iff hmem
  generalize (compileDocuments options documents).1.skipped.map Skipped.source = sources at hrefused
  have hentries : (documents.filter fun document => document.1 ∉ sources).entries.map
      Entry.ofDocument = (documents.entries.map Entry.ofDocument).filter
        fun e => e.source ∉ sources := by
    rw [List.filter_map]
    rfl
  have htransactions : (Batch.ofEntries ((documents.entries.map Entry.ofDocument).filter
      fun e => e.source ∉ sources)).transactions =
        (Batch.ofEntries (documents.entries.map Entry.ofDocument)).transactions := by
    rw [Batch.transactions_ofEntries, Batch.transactions_ofEntries, Batch.accepted_filter]
    intro e he hp
    exact (hrefused e he).1 (by simpa using hp)
  have hskipped : (Batch.ofEntries ((documents.entries.map Entry.ofDocument).filter
      fun e => e.source ∉ sources)).skipped = [] := by
    rw [Batch.skipped_ofEntries]
    refine Batch.refused_eq_nil ?_
    intro e he
    obtain ⟨hmem, hp⟩ := List.mem_filter.1 he
    cases htransaction : e.transaction with
    | ok t => exact ⟨t, rfl⟩
    | error skipped => exact absurd ((hrefused e hmem).2 ⟨skipped, htransaction⟩) (by simpa using hp)
  rw [compileDocuments_eq, compileDocuments_eq, hentries,
    Batch.result_of_transactions htransactions, hskipped]

end

/-- **A result accounts for its documents**, whatever they hold. -/
theorem compileDocuments_accounts (options : CompileOptions) (documents : OrderedMap Json) :
    Accounts options documents (compileDocuments options documents).1 where
  ends _ h := Strict.compileDocuments_eq h options
  order := sublist_skipped options documents
  fate _ hmem := existsUnique_fate options hmem
  codes := keys_flows options documents
  owned _ _ h := owner_of_flow h
  violations _ _ := get?_violations_iff
  unaffected := compileDocuments_filter options documents

namespace Sample

/-- A document that is no recording, and a recording with a later one of its transaction. -/
def mixed : OrderedMap Json :=
  .ofList [("broken.json", .arr []), ("early.json", create), ("change.json", change),
    ("late.json", create)]

end Sample

theorem compileDocuments_accounts_mixed :
    let result := (compileDocuments ⟨"2024-01-01", .null, false, []⟩ Sample.mixed).1
    Accounts ⟨"2024-01-01", .null, false, []⟩ Sample.mixed result ∧
      Strict.compileDocuments 3 ⟨"2024-01-01", .null, false, []⟩ Sample.mixed = .ok result ∧
      result.skipped.map Skipped.source = ["broken.json"] ∧
      result.flows.keys = ["va01", "va02"] := by
  intro result
  have haccounts := compileDocuments_accounts ⟨"2024-01-01", .null, false, []⟩ Sample.mixed
  refine ⟨haccounts, haccounts.ends 3 (by decide), ?_, ?_⟩
  · simp only [result, skipped_compileDocuments]
    rfl
  · simp only [result, haccounts.codes]
    decide +kernel

end ReplayFlow
