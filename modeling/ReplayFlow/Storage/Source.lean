import ReplayFlow.Path
import ReplayFlow.Storage.FileTree
import ReplayFlow.Storage.Pattern

/-!
Where recordings come from: a listing of names and the bytes of each. A
directory lists the files whose names fit a pattern, in the order of names.
-/

namespace ReplayFlow

structure RecordingSource where
  list : Except Fault (List String)
  read : String → Except Fault (List UInt8)

namespace Storage

def defaultPattern : String := "*.json"

def atPath {α : Type} (path : List String) : Except PathTrouble α → Except Fault α
  | .ok value => .ok value
  | .error trouble => .error (.atPath trouble (Path.absolute path))

/-- The paths that the parts of a pattern lead to from a directory, which `place` names. A
part before another, or before a closing slash, leads to directories alone. -/
def search (t : FileTree) (closed : Bool) : List PatternPart → List String →
    Except Fault (List (List String))
  | [], place => .ok [place]
  | part :: rest, place =>
    let leadsOn (node : Node) : Bool := node = .directory || (!closed && rest.isEmpty)
    match part with
    | .anyDepth => do
      let found ← (t.directoriesFrom place).mapM (search t closed rest)
      .ok found.flatten.eraseDups
    | .exactly name =>
      let path := place ++ [name]
      if Path.hasNull name then .ok []
      else
        match t.walk path with
        | .ok (_, node) => if leadsOn node then search t closed rest path else .ok []
        | .error .nameTooLong => .error (.atPath .nameTooLong (Path.absolute path))
        | .error _ => .ok []
    | .fitting signs => do
      let fits := (t.children place).filter fun child =>
        Sign.matchesAll signs child.1.toList && leadsOn child.2
      let found ← fits.mapM fun child => search t closed rest (place ++ [child.1])
      .ok found.flatten

/-- The names of the files in a directory that fit a pattern, sorted. -/
def listFiles (t : FileTree) (directory : List String) (pattern : String) :
    Except Fault (List String) := do
  if ← atPath directory (t.isDirectory? directory) then
    let pattern ← Pattern.ofText pattern
    let found ← search t pattern.closed pattern.parts directory
    .ok (Text.sorted ((found.filter t.isFile).map fun path => path.getLast?.getD ""))
  else .error (.inputMissing (Path.absolute directory))

/-- Reads a file by its name inside a directory. -/
def readInside (t : FileTree) (directory : List String) (name : String) :
    Except Fault (List UInt8) := do
  let path ← Path.join (Path.absolute directory) name
  atPath path (t.read path)

/-- The recordings of a directory. -/
def directorySource (t : FileTree) (directory : List String) (pattern : String) :
    RecordingSource where
  list := listFiles t directory pattern
  read := readInside t directory

end Storage

end ReplayFlow
