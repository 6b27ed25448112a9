import ReplayFlow.Text.Basic
import ReplayFlow.Text.Case
import ReplayFlow.Text.WordChar

/-!
Parameter keys: the letters and digits of a control name in words that each
start with a capital. The marker of a text field goes, brackets go, and a range
ending `-LOW` or `_HIGH` becomes a last word.
-/

namespace ReplayFlow.ParameterKey

def dropFieldMarker (name : List Char) : List Char :=
  match Text.afterAnyCase? "ctxt".toList name with
  | some rest => rest
  | none => (Text.afterAnyCase? "txt".toList name).getD name

def dropBrackets (name : List Char) : List Char := name.filter fun c => c ≠ '[' ∧ c ≠ ']'

/-- A word in one case gets a capital and small letters; one in mixed case keeps its letters. -/
def pascal (word : List Char) : List Char :=
  if Text.isUpperText word || Text.isLowerText word then
    match word with
    | [] => []
    | c :: rest => Text.capitalize (c :: Text.lower rest)
  else Text.capitalize word

/-- Cuts a range word off a reversed name: a separator and then the word, case not told apart. -/
def cutRange? (word : List Char) (reversed : List Char) : Option (List Char × List Char) :=
  match Text.afterAnyCase? word.reverse reversed with
  | some (c :: rest) =>
    if c = '-' ∨ c = '_' then
      match (reversed.take word.length).reverse with
      | [] => none
      | d :: more => some (rest.reverse, Text.capitalize (d :: Text.lower more))
    else none
  | _ => none

/-- A name without its range ending, and the ending as a word; a closing newline is looked past. -/
def splitRange (name : List Char) : List Char × List Char :=
  let reversed := (Text.withoutFinalNewline name).reverse
  (cutRange? "low".toList reversed <|> cutRange? "high".toList reversed).getD (name, [])

def isWordPart (c : Char) : Bool := Text.isWordChar c && c != '_'

def chars (name : List Char) : List Char :=
  let (body, ending) := splitRange (dropBrackets (dropFieldMarker name))
  (Text.stretches isWordPart body).flatMap pascal ++ ending

/-- The parameter key of a control name. -/
def ofName (name : String) : String := String.ofList (chars name.toList)

end ReplayFlow.ParameterKey
