import ReplayFlow.Proofs.Json.Parser
import ReplayFlow.Recording.Document

/-!
How reading a recording ends: with a document, with a refusal that names the
transaction, or at an integer past the limit, which is no refusal (`Ends`). The
last needs a run of more than 4300 digits in the text, and such a text ends
there (`parseChars_replicate`).
-/

namespace ReplayFlow

namespace Recording

variable {text rest : List Char} {tcode : String} {answer : Except Fault Json}

/-- How reading a text may end for a transaction. -/
inductive Ends (text : List Char) (tcode : String) : Except Fault Json → Prop
  | document (v : Json) : Ends text tcode (.ok v)
  | refused (cause : Malformed) (hcause : cause.tcode = tcode) :
    Ends text tcode (.error (.malformed cause))
  | oversized (n : Nat) (hlong : Text.integerDigitLimit < n) (hrun : Json.HasRun n text) :
    Ends text tcode (.error (.oversizedInteger n))

theorem Ends.mono (h : Ends rest tcode answer) (hrest : rest <:+: text) :
    Ends text tcode answer := by
  cases h with
  | document v => exact .document v
  | refused cause hcause => exact .refused cause hcause
  | oversized n hlong hrun => exact .oversized n hlong (hrun.mono hrest)

theorem ends_parseChars (text : List Char) (tcode : String) :
    Ends text tcode (parseChars text tcode) := by
  unfold parseChars
  split
  · exact .document _
  · exact .refused _ rfl
  · rename_i hparse
    obtain ⟨hlong, hrun⟩ := Json.parseAs_oversized hparse
    exact .oversized _ hlong hrun

theorem ends_parseText (text tcode : String) : Ends text.toList tcode (parseText text tcode) :=
  (ends_parseChars _ tcode).mono (List.dropWhile_suffix _).isInfix

/-- The text that the bytes of a recording hold; bytes that are no text hold none. -/
def textOf (bytes : List UInt8) : List Char := (Utf8.decodeMarked bytes).toOption.getD []

theorem ends_parseBytes (bytes : List UInt8) (tcode : String) :
    Ends (textOf bytes) tcode (parseBytes bytes tcode) := by
  unfold parseBytes textOf
  split
  · rename_i text htext
    rw [htext]
    exact ends_parseChars text tcode
  · exact .refused _ rfl

/-! ## Long integers -/

theorem readScalar_replicate (n : Nat) (h : Text.integerDigitLimit < n + 1) :
    Json.readScalar (List.replicate (n + 1) '1') = .error (.oversized (n + 1)) := by
  have hdigit : Json.isDigit '1' = true := by decide
  have hwhole : Json.wholeDigits? (List.replicate (n + 1) '1') =
      some (List.replicate (n + 1) '1', []) := by
    simp [List.replicate_succ, Json.wholeDigits?, hdigit]
  have hnumber : Json.unsignedNumber false (n + 1) (List.replicate (n + 1) '1') =
      .error (.oversized (n + 1)) := by
    simp [Json.unsignedNumber, hwhole, Json.fractionDigits, Json.exponentPart?, h]
  simpa [Json.readScalar, List.replicate_succ] using hnumber

/-- A run of more digits than the limit is not refused as a document. -/
theorem parseChars_replicate {n : Nat} (h : Text.integerDigitLimit < n) (tcode : String) :
    parseChars (List.replicate n '1') tcode = .error (.oversizedInteger n) := by
  obtain ⟨n, rfl⟩ := Nat.exists_eq_succ_of_ne_zero (by omega : n ≠ 0)
  have hspace : Json.skipSpace (List.replicate (n + 1) '1') = List.replicate (n + 1) '1' := by
    have hnone : Json.isSpace '1' = false := by decide
    simp [Json.skipSpace, List.replicate_succ, hnone]
  have hvalue (fuel : Nat) : Json.readValue .plain (fuel + 1) (List.replicate (n + 1) '1') =
      .error (.oversized (n + 1)) := by
    rw [← readScalar_replicate n h]
    simp [Json.readValue, List.replicate_succ]
  have htext : Json.readText .plain (List.replicate (n + 1) '1') = .error (.oversized (n + 1)) := by
    rw [Json.readText, hspace, hvalue]
    rfl
  have hparse : Json.parse (List.replicate (n + 1) '1') = .error (.oversized (n + 1)) := by
    rw [Json.parse, List.replicate_succ, Json.parseAs, ← List.replicate_succ, htext]
    · rfl
    · simp
  rw [parseChars, hparse]

theorem parseText_replicate {n : Nat} (h : Text.integerDigitLimit < n) (tcode : String) :
    parseText (String.ofList (List.replicate n '1')) tcode = .error (.oversizedInteger n) := by
  have hmark : List.dropWhile (· == '\uFEFF') (List.replicate n '1') = List.replicate n '1' := by
    cases n <;> simp [List.replicate_succ]
  rw [parseText, String.toList_ofList, hmark, parseChars_replicate h]

theorem decodeFrom_replicate (n position : Nat) :
    Utf8.decodeFrom position none (List.replicate n 0x31) = .ok (List.replicate n '1') := by
  induction n generalizing position with
  | zero => rfl
  | succ n ih =>
    rw [List.replicate_succ, Utf8.decodeFrom, if_pos (by decide), ih]
    rfl

theorem parseBytes_replicate {n : Nat} (h : Text.integerDigitLimit < n) (tcode : String) :
    parseBytes (List.replicate n 0x31) tcode = .error (.oversizedInteger n) := by
  have hplain : Utf8.decodeMarked (List.replicate n 0x31) = .ok (List.replicate n '1') := by
    rw [← decodeFrom_replicate n 0]
    cases n <;> rfl
  rw [parseBytes, hplain]
  exact parseChars_replicate h tcode

end Recording

end ReplayFlow
