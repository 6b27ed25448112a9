import ReplayFlow.Environment
import ReplayFlow.Fault

/-!
Files of assignments to variables, one on each line. A value may stand in
quotes, and then goes on over the end of a line; a comment starts at a `#` after
a blank. A name alone takes its assignment back. A line that is none of these is
passed over.
-/

namespace ReplayFlow.Environment

def isInlineBlank (c : Char) : Bool := Text.isBlank c && c ≠ '\n'

def dropBlanks (text : List Char) : List Char := text.dropWhile isInlineBlank

/-- The rest of a text after the end of its first line. -/
def afterLine (text : List Char) : List Char := (text.dropWhile (· != '\n')).tail

/-- Drops a word that may open a line. -/
def dropExport (text : List Char) : List Char :=
  match Text.after? "export".toList text with
  | some (c :: rest) => if isInlineBlank c then dropBlanks rest else text
  | _ => text

/-- The name a line starts with, if it does: in single quotes, or up to an equals sign, a
`#` or a blank. -/
def readName? : List Char → Option (List Char × List Char)
  | '\'' :: text =>
    match text.takeWhile (· != '\''), text.dropWhile (· != '\'') with
    | c :: name, _ :: rest => some (c :: name, rest)
    | _, _ => none
  | text =>
    let inName (c : Char) : Bool := c ≠ '=' && c ≠ '#' && !Text.isBlank c
    match text.takeWhile inName with
    | [] => none
    | name => some (name, text.dropWhile inName)

/-- The first quote with no backslash before it splits a text. -/
def splitAtQuote? (quote : Char) : List Char → Option (List Char × List Char)
  | [] => none
  | c :: text =>
    if c = quote then some ([], text)
    else if c = '\\' ∧ text.head? = some quote then
      match text with
      | q :: rest => (splitAtQuote? quote rest).map fun r => (c :: q :: r.1, r.2)
      | [] => none
    else (splitAtQuote? quote text).map fun r => (c :: r.1, r.2)

/-- The last quote splits a text. -/
def splitAtLast? (quote : Char) (text : List Char) : Option (List Char × List Char) :=
  match text.reverse.dropWhile (· != quote) with
  | _ :: before => some (before.reverse, (text.reverse.takeWhile (· != quote)).reverse)
  | [] => none

/-- A quoted text and what follows it. If every quote has a backslash before it, the last
one closes the text. -/
def readQuoted? (quote : Char) (text : List Char) : Option (List Char × List Char) :=
  splitAtQuote? quote text <|> splitAtLast? quote text

/-- The character that a backslash and a letter stand for between double quotes. -/
def escaped? : Char → Option Char
  | '\\' => some '\\'
  | '\'' => some '\''
  | '"' => some '"'
  | 'a' => some '\x07'
  | 'b' => some '\x08'
  | 'f' => some '\x0c'
  | 'n' => some '\n'
  | 'r' => some '\x0d'
  | 't' => some '\t'
  | 'v' => some '\x0b'
  | _ => none

/-- Between single quotes only quotes and backslashes are escaped. -/
def escapedInSingle? (c : Char) : Option Char :=
  if c = '\\' ∨ c = '\'' then some c else none

def unescape (escaped? : Char → Option Char) : List Char → List Char
  | '\\' :: c :: text =>
    match escaped? c with
    | some d => d :: unescape escaped? text
    | none => '\\' :: unescape escaped? (c :: text)
  | c :: text => c :: unescape escaped? text
  | [] => []

/-- The value of the rest of a line: a comment starts at a `#` after a blank. -/
def withoutComment : List Char → List Char
  | [] => []
  | c :: rest =>
    if Text.isBlank c then
      match rest.dropWhile Text.isBlank with
      | '#' :: _ => []
      | _ => c :: withoutComment rest
    else c :: withoutComment rest

/-- Reads what follows an equals sign. -/
def readValue? (text : List Char) : Option (List Char × List Char) :=
  match dropBlanks text with
  | '\'' :: rest =>
    (readQuoted? '\'' rest).map fun r => (unescape escapedInSingle? r.1, r.2)
  | '"' :: rest => (readQuoted? '"' rest).map fun r => (unescape escaped? r.1, r.2)
  | _ =>
    some (Text.strip (withoutComment (text.takeWhile (· != '\n'))), text.dropWhile (· != '\n'))

/-- What a line says: a name with its value, a name alone, or nothing. -/
structure Statement where
  name : Option (List Char)
  value : Option (List Char)

/-- Passes over a comment and the end of the line; nothing if something else stands there. -/
def endLine? (text : List Char) : Option (List Char) :=
  let text :=
    match dropBlanks text with
    | '#' :: rest => rest.dropWhile (· != '\n')
    | rest => rest
  match text with
  | [] => some []
  | '\n' :: rest => some rest
  | _ => none

def finish (statement : Statement) (text : List Char) : Option Statement × List Char :=
  match endLine? text with
  | some rest => (some statement, rest)
  | none => (none, afterLine text)

/-- Reads a statement from a text that starts with no blank, and gives back what follows. -/
def readStatement (text : List Char) : Option Statement × List Char :=
  let text := dropExport text
  match text with
  | '#' :: _ => finish ⟨none, none⟩ text
  | _ =>
    match readName? text with
    | none => (none, afterLine text)
    | some (name, rest) =>
      match dropBlanks rest with
      | '=' :: rest =>
        match readValue? rest with
        | none => (none, afterLine rest)
        | some (value, rest) => finish ⟨some name, some value⟩ rest
      | rest => finish ⟨some name, none⟩ rest

/-- Reads statements; each takes at least one character. -/
def statementsWithin : Nat → List Char → List Statement
  | 0, _ => []
  | count + 1, text =>
    match text.dropWhile Text.isBlank with
    | [] => []
    | text =>
      let (statement, rest) := readStatement text
      statement.toList ++ statementsWithin count rest

def statements (text : List Char) : List Statement := statementsWithin text.length text

/-- What a reference in braces names and its default, and how long it is. -/
def referenceAt? (text : List Char) : Option (List Char × List Char × Nat) :=
  match Text.after? ['$', '\x7b'] text with
  | none => none
  | some text =>
    let name := text.takeWhile fun c => c ≠ '\x7d' ∧ c ≠ ':'
    match text.drop name.length with
    | '\x7d' :: _ => some (name, [], name.length + 3)
    | ':' :: '-' :: rest =>
      let default := rest.takeWhile (· != '\x7d')
      if rest.length = default.length then none
      else some (name, default, name.length + default.length + 5)
    | _ => none

/-- Puts values for references, past the characters of one already replaced. -/
def substituteFrom (look : List Char → List Char → List Char) : Nat → List Char → List Char
  | _, [] => []
  | skip + 1, _ :: text => substituteFrom look skip text
  | 0, c :: text =>
    match referenceAt? (c :: text) with
    | some (name, default, length) =>
      look name default ++ substituteFrom look (length - 1) text
    | none => c :: substituteFrom look 0 text

/-- Values assigned so far; a name whose assignment was taken back has none. -/
abbrev Assigned := OrderedMap (Option String)

/-- The value a reference stands for: of the environment, or else assigned above. -/
def look (environment : Environment) (assigned : Assigned) (name default : List Char) :
    List Char :=
  match environment.get? (String.ofList name), assigned.get? (String.ofList name) with
  | some value, _ => value.toList
  | none, some value => (value.getD "").toList
  | none, none => default

def assign (environment : Environment) (assigned : Assigned) (statement : Statement) : Assigned :=
  match statement.name with
  | none => assigned
  | some name =>
    assigned.insert (String.ofList name) (statement.value.map fun value =>
      String.ofList (substituteFrom (look environment assigned) 0 value))

/-- Sets a variable that is not set yet. -/
def setMissing (environment : Environment) (entry : String × Option String) :
    Except Fault Environment :=
  match entry.2 with
  | none => .ok environment
  | some value =>
    if environment.contains entry.1 then .ok environment
    else if '\x00' ∈ entry.1.toList ∨ '\x00' ∈ value.toList then .error .nullInVariable
    else .ok (environment.insert entry.1 value)

/-- The text after a mark of byte order, if one opens it. -/
def withoutMark : List Char → List Char
  | '\ufeff' :: text => text
  | text => text

/-- Adds the assignments of a file; a variable that is set already keeps its value, and of
two assignments to one variable the last counts. -/
def withFile (environment : Environment) (text : String) : Except Fault Environment :=
  let assigned : Assigned :=
    (statements (Text.plainLines (withoutMark text.toList))).foldl (assign environment) ∅
  assigned.entries.foldlM setMissing environment

end ReplayFlow.Environment
