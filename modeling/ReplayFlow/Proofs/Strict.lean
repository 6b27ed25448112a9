import ReplayFlow.Fault
import ReplayFlow.Json.Display
import ReplayFlow.Proofs.Data.Except
import ReplayFlow.Proofs.Json.Showable

/-!
What the strict reading of the program stops at. The program takes a value of another
kind for a missing one where its checks have kept such values out, and it shows any value
as a text. Strictly read, the first is a fault, and a value is shown only if it can be
written out.
-/

namespace ReplayFlow.Strict

/-- Why the strict reading stops: for a fault of the program, or at a value or text that goes too
deep or has too long an integer. -/
inductive Stop where
  | fault (cause : Fault)
  | unshowable

/-- The text of a value, if it can be written out. -/
def display (limit : Nat) (v : Json) : Except Stop String :=
  if v.Showable limit then .ok v.display else .error .unshowable

/-- A text, or nothing. -/
def text? : Json → Except Stop (Option String)
  | .null => .ok none
  | .str s => .ok (some s)
  | _ => .error (.fault .notText)

variable {limit : Nat} {v : Json}

theorem display_eq (h : v.Showable limit) : display limit v = .ok v.display := if_pos h

theorem text?_eq (h : v = .null ∨ ∃ s, v = .str s) : text? v = .ok v.string? := by
  rcases h with rfl | ⟨s, rfl⟩ <;> rfl

theorem ofOption_string? (h : v = .null ∨ ∃ s, v = .str s) : Json.ofOption v.string? = v := by
  rcases h with rfl | ⟨s, rfl⟩ <;> rfl

end ReplayFlow.Strict
