import ReplayFlow.Data.Binary64.Shortest
import ReplayFlow.Json.Basic
import ReplayFlow.Text.Integer
import ReplayFlow.Text.Quoted

/-!
The text of a value inside a message: a string stands for itself, and in an
array or object it is quoted.
-/

namespace ReplayFlow.Json

def floatText (x : Binary64) : List Char := x.text "nan".toList "inf".toList

mutual

/-- The text of a value with strings quoted. -/
def quotedText : Json → List Char
  | null => "None".toList
  | bool b => if b then "True".toList else "False".toList
  | int n => Text.intText n
  | float x => floatText x
  | str s => Text.quoted s.toList
  | arr items => '[' :: quotedItems items ++ [']']
  | obj fields => '\x7b' :: quotedFields fields ++ ['\x7d']

def quotedItems : List Json → List Char
  | [] => []
  | [v] => quotedText v
  | v :: rest => quotedText v ++ ", ".toList ++ quotedItems rest

def quotedFields : List (String × Json) → List Char
  | [] => []
  | [(k, v)] => Text.quoted k.toList ++ ": ".toList ++ quotedText v
  | (k, v) :: rest =>
    Text.quoted k.toList ++ ": ".toList ++ quotedText v ++ ", ".toList ++ quotedFields rest

end

/-- The text of a value; a string is its own text. -/
def display : Json → String
  | str s => s
  | v => String.ofList (quotedText v)

end ReplayFlow.Json
