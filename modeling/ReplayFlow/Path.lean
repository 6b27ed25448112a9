import ReplayFlow.Fault
import ReplayFlow.Text.Basic
import ReplayFlow.Text.Case

/-!
Paths as text and as components. Empty components and `.` count for nothing, and
`..` takes the component before it away. `join` keeps a name inside its base.
-/

namespace ReplayFlow.Path

def isAbsolute (path : String) : Bool := Text.startsWith ['/'] path.toList

def hasNull (path : String) : Bool := path.toList.contains '\x00'

/-- The components of a path text, `..` among them. -/
def components (path : String) : List String :=
  ((Text.pieces '/' path.toList).filter fun c => c ≠ [] ∧ c ≠ ['.']).map String.ofList

/-- Adds a component at the end of a normalized path. -/
def push (path : List String) (component : String) : List String :=
  if component = ".." then path.dropLast else path ++ [component]

/-- The components after `..` has taken away what it takes. -/
def normalize (cs : List String) : List String := cs.foldl push []

/-- The text of an absolute path. -/
def absolute (cs : List String) : String := "/" ++ "/".intercalate cs

/-- The components of a path text seen from a directory, `..` among them. -/
def seenFrom (directory : List String) (path : String) : List String :=
  if isAbsolute path then components path else directory ++ components path

/-- The components of a path text seen from a directory. -/
def resolve (directory : List String) (path : String) : List String :=
  normalize (seenFrom directory path)

/-- The place a path text leads to from a directory. -/
def locate (directory : List String) (path : String) : Except Fault (List String) :=
  if hasNull path then .error .nullInPath else .ok (resolve directory path)

/-- What an absolute path text starts with: two slashes if it has exactly two, else one. -/
def rootText (path : String) : String :=
  match path.toList with
  | '/' :: '/' :: '/' :: _ => "/"
  | '/' :: '/' :: _ => "//"
  | '/' :: _ => "/"
  | _ => ""

/-- A path text without what counts for nothing; an empty one is written `.`. -/
def tidy (path : String) : String :=
  let text := rootText path ++ "/".intercalate (components path)
  if text = "" then "." else text

/-- The text of a name in a directory. -/
def child (directory name : String) : String :=
  rootText directory ++ "/".intercalate (components directory ++ [name])

/-- The last component of a path text. -/
def fileName (path : String) : String := (components path).getLast?.getD ""

/-- A name without its last suffix. A suffix starts at a point that neither opens nor ends
the name. -/
def withoutSuffix (name : List Char) : List Char :=
  match name.reverse.dropWhile (· != '.') with
  | '.' :: before => if before = [] ∨ name.getLast? = some '.' then name else before.reverse
  | _ => name

def stem (path : String) : String := String.ofList (withoutSuffix (fileName path).toList)

/-- The components of a path below a base; a base that starts with two slashes holds none. -/
def isInside (base : String) (cs : List String) : Bool :=
  rootText base = "/" && (components base).isPrefixOf cs

/-- A name inside a base directory, as absolute components. -/
def join (base name : String) : Except Fault (List String) :=
  let whole := if isAbsolute name then name else base ++ "/" ++ name
  if hasNull whole then .error .nullInPath
  else if !isAbsolute base then .error .mixedPaths
  else
    let cs := normalize (components whole)
    if isInside base cs then .ok cs else .error (.outside (tidy base) name)

end ReplayFlow.Path

namespace ReplayFlow

/-- The transaction code a source goes by: its file name without suffix, in small letters. -/
def tcodeOfSource (source : String) : String := lowercase (Path.stem source)

end ReplayFlow
