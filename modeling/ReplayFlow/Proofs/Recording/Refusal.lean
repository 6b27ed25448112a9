import ReplayFlow.Proofs.Recording.Legacy

/-!
How recordings are refused. Any value may stand at any place of a document; what
comes of it is a transaction in the shape of the document or a refusal of the
document as malformed, and never another fault (`reads_normalize`).
-/

namespace ReplayFlow

namespace Recording

variable {t : Transaction} {format : Format} {x : Except Fault Transaction}

/-- What reading a recording comes to: a transaction of a shape, or a malformed document. -/
inductive Reads (format : Format) : Except Fault Transaction → Prop
  | read {t : Transaction} : t.format = format → Reads format (.ok t)
  | refused (cause : Malformed) : Reads format (.error (.malformed cause))

theorem Reads.bind {f : Transaction → Except Fault Transaction} (h : Reads format x)
    (hf : ∀ t, t.format = format → Reads format (f t)) : Reads format (x >>= f) := by
  cases h with
  | read hformat => exact hf _ hformat
  | refused cause => exact .refused cause

theorem checkEvents_cases (tcode : String) (position : Nat) (events : List Json) :
    checkEvents tcode position events = .ok () ∨
      ∃ cause, checkEvents tcode position events = .error (.malformed cause) := by
  fun_induction checkEvents tcode position events with
  | case1 => exact .inl rfl
  | case2 => exact .inr ⟨_, rfl⟩
  | case3 _ _ _ _ ih => exact ih
  | case4 _ _ _ _ ih => exact ih

theorem reads_addRecords (make : String → Entries Json → Step) (t : Transaction)
    (records : List (String × Json)) : Reads t.format (addRecords make t records) := by
  fun_induction addRecords make t records with
  | case1 t => exact .read rfl
  | case2 t name record rest ih =>
    rw [(Transaction.sameFrame_addStep ..).format] at ih
    exact ih
  | case3 => exact .refused _

theorem reads_addContexts (t : Transaction) (contexts : List (String × Entries Json)) :
    Reads t.format (addContexts t contexts) := by
  induction contexts generalizing t with
  | nil => exact .read rfl
  | cons context rest ih =>
    refine (reads_addRecords (contextStep context.1) t context.2).bind ?_
    intro u hu
    exact hu ▸ ih u

theorem reads_addContexts_addStep (hformat : t.format = format) (step : Step)
    (contexts : List (String × Entries Json)) :
    Reads format (addContexts (t.addStep step none) contexts) := by
  rw [← hformat, ← (Transaction.sameFrame_addStep t step none).format]
  exact reads_addContexts _ _

theorem reads_normalizeLegacy (document : Json) (tcode : String) :
    Reads .legacy (normalizeLegacy document tcode) := by
  unfold normalizeLegacy
  split
  · dsimp only
    split
    · rename_i events _
      rcases checkEvents_cases _ 1 events with hok | ⟨cause, hrefused⟩
      · rw [hok]
        exact .read (Transaction.sameFrame_legacyTransaction _ _).format
      · rw [hrefused]
        exact .refused cause
    · exact .refused _
  · exact .refused _

theorem reads_normalizeStepsOnly (fields : Entries Json) (tcode : String) :
    Reads .stepsOnly (normalizeStepsOnly (.obj fields) tcode) := by
  unfold normalizeStepsOnly
  dsimp only
  split
  · exact reads_addRecords carriedStep { tcode := lowercase tcode, format := .stepsOnly } _
  · exact .refused _

theorem reads_normalizeContextual (fields : Entries Json) (tcode : String) :
    Reads .contextual (normalizeContextual (.obj fields) tcode) := by
  unfold normalizeContextual
  dsimp only
  split
  · split
    · split
      · split
        · exact .refused _
        · refine reads_addContexts_addStep ?_ _ _
          rfl
      · exact .refused _
    · exact .refused _
  · exact .refused _

/-- Only objects are not read as legacy. -/
theorem eq_obj_of_detect {document : Json} (h : Format.detect document ≠ .legacy) :
    ∃ fields, document = .obj fields := by
  cases document with
  | obj fields => exact ⟨fields, rfl⟩
  | _ => exact absurd rfl h

/-- **A document is read or malformed**, whatever it holds. -/
theorem reads_normalize (document : Json) (tcode : String) :
    Reads (Format.detect document) (Recording.ofDocument document tcode).normalize := by
  unfold normalize ofDocument
  dsimp only
  cases hformat : Format.detect document with
  | legacy => exact reads_normalizeLegacy document tcode
  | stepsOnly =>
    obtain ⟨fields, rfl⟩ := eq_obj_of_detect (by rw [hformat]; decide)
    exact reads_normalizeStepsOnly fields tcode
  | contextual =>
    obtain ⟨fields, rfl⟩ := eq_obj_of_detect (by rw [hformat]; decide)
    exact reads_normalizeContextual fields tcode

end Recording

namespace Entry

variable {e : Entry} {t : Transaction}

/-- An accepted transaction has the shape of its document. -/
theorem format_of_transaction (h : e.transaction = .ok t) :
    t.format = Format.detect e.document := by
  obtain ⟨u, hu, rfl⟩ := transaction_eq_ok_iff.1 h
  rw [(Transaction.sameSteps_analyze u).format]
  have hread := Recording.reads_normalize e.document e.tcode
  rw [hu] at hread
  cases hread with
  | read hformat => exact hformat

/-- What is noted of a refused entry names its source. -/
theorem source_of_refused {skipped : Skipped} (h : e.transaction = .error skipped) :
    skipped.source = e.source := by
  unfold transaction at h
  split at h
  · cases h
  · cases h
    rfl

end Entry

end ReplayFlow
