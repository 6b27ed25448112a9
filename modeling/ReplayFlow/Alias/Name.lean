import ReplayFlow.Text.Basic
import ReplayFlow.Text.Case
import ReplayFlow.Text.WordChar

/-!
Readable names for controls, from the last segment of the path and the kind of
control. The segment decides first; a kind is asked only where it says nothing.
-/

namespace ReplayFlow.Alias

def buttonKinds : List String := ["GuiButton"]

def textKinds : List String := ["GuiTextField", "GuiCTextField", "GuiComboBox", "GuiPasswordField"]

def checkboxKinds : List String := ["GuiCheckBox"]

def gridKinds : List String := ["GuiShell", "GuiGridView", "GuiTableControl"]

def isOfKind (kind : Option String) (kinds : List String) : Bool :=
  match kind with
  | some k => k ∈ kinds
  | none => false

/-- The rest of a segment after the marker of a text field or selection box. -/
def afterFieldMarker? (segment : List Char) : Option (List Char) :=
  Text.afterAnyCase? "ctxt".toList segment <|> Text.afterAnyCase? "txt".toList segment <|>
    Text.afterAnyCase? "cmb".toList segment

def afterCheckMarker? (segment : List Char) : Option (List Char) :=
  Text.afterAnyCase? "chk".toList segment

/-- A field's own name in small letters; a range marker becomes the ending. -/
def fieldName (field : List Char) : List Char :=
  let bare := field.filter fun c => c ≠ '[' ∧ c ≠ ']'
  if Text.occursIn "-LOW".toList bare then
    Text.lower (Text.removeAll "-LOW".toList bare) ++ "Low".toList
  else if Text.occursIn "-HIGH".toList bare then
    Text.lower (Text.removeAll "-HIGH".toList bare) ++ "High".toList
  else Text.lower bare

def wordChars (segment : List Char) : List Char := segment.filter Text.isWordChar

def buttonName (segment : List Char) : List Char :=
  if Text.occursIn "btn[8]".toList segment then "variant.execBtn".toList
  else if Text.occursIn "btn[0]".toList segment then "popup.accept".toList
  else "button.".toList ++ wordChars segment

def nameChars (path : List Char) (kind : Option String) : List Char :=
  let segment := Text.lastSegment path
  let small := Text.lower segment
  if Text.startsWith "btn".toList small || isOfKind kind buttonKinds then buttonName segment
  else if (afterFieldMarker? segment).isSome || isOfKind kind textKinds then
    "filter.".toList ++ fieldName ((afterFieldMarker? segment).getD segment)
  else if Text.startsWith "chk".toList small || isOfKind kind checkboxKinds then
    "filter.".toList ++ fieldName ((afterCheckMarker? segment).getD segment)
  else if Text.occursIn "shell".toList small || isOfKind kind gridKinds then "gridResult".toList
  else "control.".toList ++ wordChars segment

/-- The name of the control at a path, before names are told apart. -/
def nameOf (path : String) (kind : Option String) : String :=
  String.ofList (nameChars path.toList kind)

end ReplayFlow.Alias
