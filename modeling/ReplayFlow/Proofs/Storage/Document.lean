import ReplayFlow.Proofs.Json.RoundTrip
import ReplayFlow.Proofs.Text.Utf8
import ReplayFlow.Recording.Document
import ReplayFlow.Storage.Document
import ReplayFlow.Storage.Sink

/-!
The bytes of a stored document. Both readers of documents, the one for
recordings and flows (`parseBytes_documentBytes`) and the one for what the
program itself keeps (`readDocumentAs_documentBytes`), give back what was stored.
-/

namespace ReplayFlow

theorem Text.plainLines_of_not_mem {text : List Char} (h : '\r' ∉ text) :
    plainLines text = text := by
  induction text with
  | nil => rfl
  | cons c rest ih =>
    rw [List.mem_cons, not_or] at h
    unfold plainLines
    split
    · rename_i heq
      exact absurd (List.cons.inj heq).1.symm h.1
    · rename_i heq
      exact absurd (List.cons.inj heq).1.symm h.1
    · rename_i heq
      obtain ⟨rfl, rfl⟩ := List.cons.inj heq
      rw [ih h.2]
    · rename_i heq
      cases heq

namespace Storage

variable {v : Json}

theorem exists_documentBytes (hexact : Json.Exact v) :
    ∃ first more, Json.block 0 v = first :: more ∧ first.toNat < 0x80 ∧
      documentBytes v = Utf8.encode (first :: more) := by
  obtain ⟨first, more, htext, hfirst⟩ := Json.exists_block_eq_cons hexact 0
  refine ⟨first, more, htext, Json.toNat_lt_of_isOpening hfirst, ?_⟩
  rw [documentBytes, Json.renderIndented, String.toList_ofList, htext]

/-- **A stored document is parsed as what was stored.** -/
theorem parseBytes_documentBytes (hexact : Json.Exact v) (hdistinct : Json.Distinct v)
    (tcode : String) : Recording.parseBytes (documentBytes v) tcode = .ok v := by
  obtain ⟨first, more, htext, hfirst, hbytes⟩ := exists_documentBytes hexact
  have hparse := Json.parseAs_block .plain hexact hdistinct 0
  rw [htext] at hparse
  simp only [Recording.parseBytes, hbytes, Utf8.decodeMarked_encode hfirst, Recording.parseChars,
    Json.parse, hparse]

theorem readDocumentAs_documentBytes (spelling : Json.Spelling) (hexact : Json.Exact v)
    (hdistinct : Json.Distinct v) :
    readDocumentAs spelling (documentBytes v) = .ok (.document v) := by
  obtain ⟨first, more, htext, hfirst, hbytes⟩ := exists_documentBytes hexact
  have hparse := Json.parseAs_block spelling hexact hdistinct 0
  have hlines := Text.plainLines_of_not_mem (Json.return_not_mem_block v 0 hexact)
  rw [htext] at hparse hlines
  simp only [readDocumentAs, hbytes, Utf8.decodeFile_encode hfirst, hlines, hparse]

end Storage

end ReplayFlow
