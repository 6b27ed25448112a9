import ReplayFlow.Text.Hex
import ReplayFlow.Text.Utf8

/-!
Text in which bytes may be written as a percent sign and two digits in base
sixteen. A percent sign without them stands for itself.
-/

namespace ReplayFlow.Text

/-- The byte that two digits write. -/
def byteOfHex? (a b : Char) : Option UInt8 :=
  match hexValue? a, hexValue? b with
  | some high, some low => some (UInt8.ofNat (high * 16 + low))
  | _, _ => none

def percentBytesFrom : Nat → List Char → List UInt8
  | _, [] => []
  | skip + 1, _ :: text => percentBytesFrom skip text
  | 0, '%' :: a :: b :: text =>
    match byteOfHex? a b with
    | some byte => byte :: percentBytesFrom 2 (a :: b :: text)
    | none => Utf8.encodeChar '%' ++ percentBytesFrom 0 (a :: b :: text)
  | 0, c :: text => Utf8.encodeChar c ++ percentBytesFrom 0 text

/-- The bytes that a text writes. -/
def percentBytes (text : List Char) : List UInt8 := percentBytesFrom 0 text

def percentDecode (text : List Char) : List Char := Utf8.decodeAny (percentBytes text)

end ReplayFlow.Text
