import ReplayFlow.Data.Binary64.Shortest
import ReplayFlow.Json.Basic
import ReplayFlow.Text.Hex
import ReplayFlow.Text.Integer

/-!
Documents as text: on one line, and with one line for each item or field,
indented by two blanks for each level. Only quotes, backslashes and control
characters are escaped.
-/

namespace ReplayFlow.Json

def escapedChar (c : Char) : List Char :=
  if c = '"' then ['\\', '"']
  else if c = '\\' then ['\\', '\\']
  else if c = '\n' then ['\\', 'n']
  else if c = '\r' then ['\\', 'r']
  else if c = '\t' then ['\\', 't']
  else if c = '\x08' then ['\\', 'b']
  else if c = '\x0c' then ['\\', 'f']
  else if c.toNat < 32 then '\\' :: 'u' :: Text.hexText 4 c.toNat
  else [c]

def stringText (s : String) : List Char := '"' :: s.toList.flatMap escapedChar ++ ['"']

def numberText (x : Binary64) : List Char := x.text "NaN".toList "Infinity".toList

/-- The text of a value that is neither an array nor an object. -/
def scalarText : Json → List Char
  | null => "null".toList
  | bool b => if b then "true".toList else "false".toList
  | int n => Text.intText n
  | float x => numberText x
  | str s => stringText s
  | _ => []

mutual

/-- The text of a value on one line. -/
def line : Json → List Char
  | arr items => '[' :: lineItems items ++ [']']
  | obj fields => '\x7b' :: lineFields fields ++ ['\x7d']
  | v => scalarText v

def lineItems : List Json → List Char
  | [] => []
  | [v] => line v
  | v :: rest => line v ++ ", ".toList ++ lineItems rest

def lineFields : List (String × Json) → List Char
  | [] => []
  | [(k, v)] => stringText k ++ ": ".toList ++ line v
  | (k, v) :: rest => stringText k ++ ": ".toList ++ line v ++ ", ".toList ++ lineFields rest

end

def newLine (level : Nat) : List Char := '\n' :: List.replicate (2 * level) ' '

mutual

/-- The text of a value at a level of indentation. -/
def block (level : Nat) : Json → List Char
  | arr [] => ['[', ']']
  | arr (v :: rest) =>
    '[' :: newLine (level + 1) ++ block (level + 1) v ++ blockItems (level + 1) rest ++
      newLine level ++ [']']
  | obj [] => ['\x7b', '\x7d']
  | obj ((k, v) :: rest) =>
    '\x7b' :: newLine (level + 1) ++ stringText k ++ ": ".toList ++ block (level + 1) v ++
      blockFields (level + 1) rest ++ newLine level ++ ['\x7d']
  | v => scalarText v

/-- The items after the first. -/
def blockItems (level : Nat) : List Json → List Char
  | [] => []
  | v :: rest => ',' :: newLine level ++ block level v ++ blockItems level rest

/-- The fields after the first. -/
def blockFields (level : Nat) : List (String × Json) → List Char
  | [] => []
  | (k, v) :: rest =>
    ',' :: newLine level ++ stringText k ++ ": ".toList ++ block level v ++
      blockFields level rest

end

def render (v : Json) : String := String.ofList (line v)

def renderIndented (v : Json) : String := String.ofList (block 0 v)

end ReplayFlow.Json
