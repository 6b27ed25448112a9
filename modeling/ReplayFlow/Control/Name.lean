import ReplayFlow.Text.Basic

/-!
The name shown for a control: the last segment of its path, less the marker of a
text field.
-/

namespace ReplayFlow.Control

def nameChars (path : List Char) : List Char :=
  let segment := Text.lastSegment path
  (Text.afterFirst? "txt".toList segment).getD segment

/-- The name of the control at a path. -/
def nameOf (path : String) : String := String.ofList (nameChars path.toList)

end ReplayFlow.Control
