import ReplayFlow.Fault

/-!
Recordings as they are read: bytes with at most one opening mark, or text with
any number of them, that hold one document.
-/

namespace ReplayFlow.Recording

/-- How much of a text is shown on either side of a broken place. -/
def excerptWidth : Nat := 30

def excerpt (text : List Char) (position : Nat) : String :=
  let start := position - excerptWidth
  String.ofList ((text.drop start).take (position + excerptWidth - start))

/-- Reads a document whose opening marks are dropped. -/
def parseChars (text : List Char) (tcode : String) : Except Fault Json :=
  match Json.parse text with
  | .ok v => .ok v
  | .error (.unexpected expected position) =>
    .error (.malformed (.notJson tcode expected position (excerpt text position)))
  | .error (.oversized digits) => .error (.oversizedInteger digits)

def parseText (text : String) (tcode : String) : Except Fault Json :=
  parseChars (text.toList.dropWhile (· == '\uFEFF')) tcode

def parseBytes (bytes : List UInt8) (tcode : String) : Except Fault Json :=
  match Utf8.decodeMarked bytes with
  | .ok text => parseChars text tcode
  | .error failure => .error (.malformed (.notUtf8 tcode failure))

end ReplayFlow.Recording
