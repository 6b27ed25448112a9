import ReplayFlow.Text.Basic
import ReplayFlow.Text.Digit

/-!
The areas of a window that control paths start with: the usable area of any
window, that of the popup window, whose index is `1`, and a toolbar.
-/

namespace ReplayFlow.Area

/-- A path cut after its window: the text up to there, the window's index and the rest. -/
structure Cut where
  head : List Char
  index : List Char
  rest : List Char

/-- Cuts a path after `name[digits]/`. -/
def cutIndexed? (name path : List Char) : Option Cut :=
  match Text.after? (name ++ ['[']) path with
  | none => none
  | some rest =>
    let index := rest.takeWhile Text.isDecimalDigit
    match index, rest.dropWhile Text.isDecimalDigit with
    | _ :: _, ']' :: '/' :: more => some ⟨name ++ '[' :: index ++ [']', '/'], index, more⟩
    | _, _ => none

/-- Cuts `/app/con[digits]/ses[digits]/wnd[digits]/` off a path. -/
def cutWindow? (path : List Char) : Option Cut := do
  let connection ← cutIndexed? "/app/con".toList path
  let session ← cutIndexed? "ses".toList connection.rest
  let window ← cutIndexed? "wnd".toList session.rest
  some ⟨connection.head ++ session.head ++ window.head, window.index, window.rest⟩

def usableChars? (path : List Char) : Option (List Char) := do
  let window ← cutWindow? path
  let _ ← Text.after? "usr/".toList window.rest
  some (window.head ++ "usr/".toList)

def popupChars? (path : List Char) : Option (List Char) := do
  let window ← cutWindow? path
  if window.index = ['1'] then usableChars? path else none

def toolbarChars? (path : List Char) : Option (List Char) := do
  let window ← cutWindow? path
  let bar ← cutIndexed? "tbar".toList window.rest
  some (window.head ++ bar.head)

/-- The usable area a path lies in. -/
def usable? (path : String) : Option String := (usableChars? path.toList).map String.ofList

/-- The usable area of the popup window, when a path lies in it. -/
def popup? (path : String) : Option String := (popupChars? path.toList).map String.ofList

/-- The toolbar a path lies in. -/
def toolbar? (path : String) : Option String := (toolbarChars? path.toList).map String.ofList

/-- Adds a value at the end of a list that does not hold it. -/
def addNew (known : List String) (value : String) : List String :=
  if value ∈ known then known else known ++ [value]

/-- The areas a path lies in, each once. -/
def ofPath (path : String) : List String :=
  ([usable? path, popup? path, toolbar? path].filterMap id).foldl addNew []

def isPopup (path : String) : Bool := (popup? path).isSome

/-- In the usable area of a window, with no popup window anywhere in the path. -/
def isMain (path : String) : Bool :=
  (usable? path).isSome && !Text.occursIn "/wnd[1]/".toList path.toList

end ReplayFlow.Area
