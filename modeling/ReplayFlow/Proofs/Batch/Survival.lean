import ReplayFlow.Batch.Compile
import ReplayFlow.Proofs.Recording.Registry

/-!
Which recordings of a batch own a flow, and what the result holds for them. A
recording survives when it is accepted and no accepted one after it has its
transaction code; its transaction is then the one of the batch
(`get?_addAll_of_survives`), and the result has its flow and its violations
(`flow_of_survives`, `violations_of_survives`).
-/

namespace ReplayFlow

namespace Batch

variable {b : Batch} {entries : List Entry} {e : Entry} {t : Transaction} {tcode : String}

/-- Entry `e` is accepted as `t`, and no entry after it is accepted under the same code. -/
def Survives (entries : List Entry) (e : Entry) (t : Transaction) : Prop :=
  ∃ before after, entries = before ++ e :: after ∧ e.transaction = .ok t ∧
    ∀ later ∈ after, ∀ u, later.transaction = .ok u → u.tcode ≠ t.tcode

theorem transaction_of_survives (h : Survives entries e t) : e.transaction = .ok t := by
  obtain ⟨_, _, _, hok, _⟩ := h
  exact hok

theorem survives_alone (h : e.transaction = .ok t) : Survives [e] e t :=
  ⟨[], [], rfl, h, by simp⟩

/-- The last recording of a batch survives. -/
theorem survives_create :
    ∃ t, Survives (Sample.documents.entries.map Entry.ofDocument)
      (Entry.ofDocument ("create.json", Sample.create)) t ∧ t.tcode = "va01" := by
  obtain ⟨t, hok, htcode, _⟩ := Sample.accepted_create
  exact ⟨t, ⟨[Entry.ofDocument ("change.json", Sample.change)], [], rfl, hok, by simp⟩, htcode⟩

/-! ## Taking in entries -/

theorem add_of_ok (h : e.transaction = .ok t) :
    (b.add e).1 = { b with transactions := b.transactions.insert t.tcode t } := by
  simp [add, h]

theorem addAll_cons (b : Batch) (e : Entry) (rest : List Entry) :
    (b.addAll (e :: rest)).1 = ((b.add e).1.addAll rest).1 := rfl

theorem addAll_append (b : Batch) (before after : List Entry) :
    (b.addAll (before ++ after)).1 = ((b.addAll before).1.addAll after).1 := by
  induction before generalizing b with
  | nil => rfl
  | cons e rest ih => rw [List.cons_append, addAll_cons, ih, addAll_cons]

theorem get?_add_of_ne (h : ∀ u, e.transaction = .ok u → u.tcode ≠ tcode) :
    (b.add e).1.transactions.get? tcode = b.transactions.get? tcode := by
  unfold add
  split
  · rfl
  · rename_i u hu
    rw [OrderedMap.get?_insert, if_neg (h u hu)]

theorem get?_addAll_of_ne (h : ∀ e ∈ entries, ∀ u, e.transaction = .ok u → u.tcode ≠ tcode) :
    (b.addAll entries).1.transactions.get? tcode = b.transactions.get? tcode := by
  induction entries generalizing b with
  | nil => rfl
  | cons e rest ih =>
    rw [addAll_cons, ih fun later hlater => h later (List.mem_cons_of_mem _ hlater),
      get?_add_of_ne (h e (List.mem_cons_self ..))]

theorem get?_addAll_of_survives (h : Survives entries e t) :
    (b.addAll entries).1.transactions.get? t.tcode = some t := by
  obtain ⟨before, after, rfl, hok, hafter⟩ := h
  rw [addAll_append, addAll_cons, get?_addAll_of_ne hafter, add_of_ok hok, OrderedMap.get?_insert,
    if_pos rfl]

/-! ## What is accepted and what is refused -/

/-- The accepted transactions of some entries under their codes, in order. -/
def accepted (entries : List Entry) : Entries Transaction :=
  entries.filterMap fun e => e.transaction.toOption.map fun t => (t.tcode, t)

/-- What is noted of the refused entries, in order. -/
def refused (entries : List Entry) : List Skipped :=
  entries.filterMap fun e =>
    match e.transaction with
    | .ok _ => none
    | .error skipped => some skipped

theorem transactions_addAll (b : Batch) (entries : List Entry) :
    (b.addAll entries).1.transactions.entries =
      Entries.insertAll b.transactions.entries (accepted entries) := by
  induction entries generalizing b with
  | nil => rfl
  | cons e rest ih =>
    rw [addAll_cons, ih, add, accepted, accepted, List.filterMap_cons]
    cases e.transaction <;> rfl

theorem skipped_addAll (b : Batch) (entries : List Entry) :
    (b.addAll entries).1.skipped = b.skipped ++ refused entries := by
  induction entries generalizing b with
  | nil => simp [addAll, refused]
  | cons e rest ih =>
    rw [addAll_cons, ih, add, refused, refused, List.filterMap_cons]
    cases e.transaction <;> simp [skip]

theorem mem_accepted : (tcode, t) ∈ accepted entries ↔
    ∃ e ∈ entries, e.transaction = .ok t ∧ t.tcode = tcode := by
  simp only [accepted, List.mem_filterMap, Option.map_eq_some_iff, Prod.mk.injEq]
  constructor
  · rintro ⟨e, he, u, hu, htcode, rfl⟩
    refine ⟨e, he, ?_, htcode⟩
    cases hok : e.transaction with
    | ok v =>
      rw [hok] at hu
      exact congrArg Except.ok (Option.some.inj hu)
    | error skipped =>
      rw [hok] at hu
      cases hu
  · rintro ⟨e, he, hok, htcode⟩
    exact ⟨e, he, t, by rw [hok]; rfl, htcode, rfl⟩

/-! ## The result -/

/-- A transaction of the batch with names on its steps. -/
def named (b : Batch) (t : Transaction) : Transaction :=
  (Alias.Naming.ofTransaction (Alias.chooseHeads b.transactions.values) t).nameSteps t

theorem get?_flows (options : CompileOptions) (b : Batch) (tcode : String) :
    (b.assemble options).result.flows.get? tcode =
      (b.transactions.get? tcode).map fun t => (compileOne options.date (b.named t)).flow := by
  simp only [assemble, Alias.generate, OrderedMap.get?_mapValues, Option.map_map]
  rfl

theorem get?_violations (options : CompileOptions) (b : Batch) (tcode : String) :
    (b.assemble options).result.violations.get? tcode =
      ((b.transactions.get? tcode).map fun t =>
        (compileOne options.date (b.named t)).violations).filter fun found => !found.isEmpty := by
  have hnodup : ∀ m : OrderedMap Compiled, (Entries.keys (Entries.mapValues Compiled.violations
      m.entries)).Nodup := by
    intro m
    rw [Entries.keys_mapValues]
    exact m.nodup
  simp only [assemble]
  rw [OrderedMap.ofList_entries (Entries.nodup_keys_filter (hnodup _) _), OrderedMap.get?,
    Entries.get?_filter (hnodup _), Entries.get?_mapValues]
  refine congrArg (Option.filter _) ?_
  change (((Alias.generate b.transactions).transactions.mapValues (compileOne options.date)).get?
    tcode).map Compiled.violations = _
  simp only [Alias.generate, OrderedMap.get?_mapValues, Option.map_map]
  rfl

/-! ## What a survivor has -/

/-- The batch of some entries. -/
def ofEntries (entries : List Entry) : Batch := (addAll {} entries).1

theorem transactions_ofEntries (entries : List Entry) :
    (ofEntries entries).transactions = .ofList (accepted entries) :=
  OrderedMap.ext (transactions_addAll {} entries)

theorem skipped_ofEntries (entries : List Entry) : (ofEntries entries).skipped = refused entries :=
  skipped_addAll {} entries

theorem exists_entry_of_get? (h : (ofEntries entries).transactions.get? tcode = some t) :
    ∃ e ∈ entries, e.transaction = .ok t ∧ t.tcode = tcode := by
  rw [transactions_ofEntries] at h
  exact mem_accepted.1 (Entries.mem_of_mem_ofList (Entries.mem_of_get? h))

theorem flow_of_survives (h : Survives entries e t) (options : CompileOptions) :
    ((ofEntries entries).assemble options).result.flows.get? t.tcode =
      some (Flow.assemble options.date ((ofEntries entries).named t)).document := by
  rw [get?_flows, ofEntries, get?_addAll_of_survives h]
  rfl

theorem violations_of_survives (h : Survives entries e t) (options : CompileOptions) :
    ((ofEntries entries).assemble options).result.violations.get? t.tcode =
      (some (violationsOf (Flow.assemble options.date
        ((ofEntries entries).named t)).document)).filter fun found => !found.isEmpty := by
  rw [get?_violations, ofEntries, get?_addAll_of_survives h]
  rfl

end Batch

theorem compileDocuments_eq (options : CompileOptions) (documents : OrderedMap Json) :
    (compileDocuments options documents).1 =
      ((Batch.ofEntries (documents.entries.map Entry.ofDocument)).assemble options).result :=
  rfl

end ReplayFlow
