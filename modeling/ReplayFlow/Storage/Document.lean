import ReplayFlow.Fault
import ReplayFlow.Text.Utf8

/-!
Stored documents as they are read back: one opening mark is dropped, and lines
may end in any way.
-/

namespace ReplayFlow

namespace Storage

/-- What the text of a stored document is: a document, or broken at some place. -/
inductive Reading where
  | document (v : Json)
  | broken (place : String)

/-- Reads a stored document; only its grammar may be broken. -/
def readDocumentAs (spelling : Json.Spelling) (bytes : List UInt8) : Except Fault Reading :=
  match Utf8.decodeFile bytes with
  | .error failure => .error (.notUtf8 failure)
  | .ok text =>
    let text := Text.plainLines text
    match Json.parseAs spelling text with
    | .ok v => .ok (.document v)
    | .error (.unexpected expected position) =>
      .ok (.broken (Json.placeMessage text expected position))
    | .error (.oversized digits) => .error (.oversizedInteger digits)

def readDocument (bytes : List UInt8) : Except Fault Reading := readDocumentAs .plain bytes

end Storage

end ReplayFlow
