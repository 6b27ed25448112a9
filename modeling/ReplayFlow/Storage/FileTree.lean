import ReplayFlow.Fault
import ReplayFlow.Text.Utf8

/-!
A tree of files and directories, and what a file system answers about it. Paths
are absolute components; a walk needs every directory on its way, and `..` leads
back to the directory above.
-/

namespace ReplayFlow

inductive Node where
  | file (bytes : List UInt8)
  | directory
  deriving DecidableEq

structure FileTree where
  nodes : List (List String × Node)

namespace FileTree

def empty : FileTree := ⟨[]⟩

/-- The most bytes a component may have. -/
def componentLimit : Nat := 255

def isTooLong (component : String) : Bool :=
  componentLimit < (Utf8.encode component.toList).length

/-- What stands at a path without `..`; the root is a directory. -/
def at? (t : FileTree) (path : List String) : Option Node :=
  if path = [] then some .directory else t.nodes.lookup path

/-- Walks on from a place that was reached, to the place and what stands there. -/
def walkFrom (t : FileTree) (reached : List String) :
    List String → Except PathTrouble (List String × Node)
  | [] =>
    match t.at? reached with
    | some node => .ok (reached, node)
    | none => .error .notFound
  | component :: rest =>
    match t.at? reached with
    | none => .error .notFound
    | some (.file _) => .error .notDirectory
    | some .directory =>
      if component = ".." then walkFrom t reached.dropLast rest
      else if isTooLong component then .error .nameTooLong
      else walkFrom t (reached ++ [component]) rest

/-- The most bytes a path may have. -/
def pathLimit : Nat := 4095

/-- The bytes of a path, one separator before each component. -/
def pathSize : List String → Nat
  | [] => 0
  | component :: rest => (Utf8.encode component.toList).length + 1 + pathSize rest

def walk (t : FileTree) (path : List String) : Except PathTrouble (List String × Node) :=
  if pathLimit < pathSize path then
    .error .nameTooLong
  else walkFrom t [] path

/-- Whether something stands at a path. Only a name that is too long is no answer. -/
def exists? (t : FileTree) (path : List String) : Except PathTrouble Bool :=
  match t.walk path with
  | .ok _ => .ok true
  | .error .nameTooLong => .error .nameTooLong
  | .error _ => .ok false

def isDirectory? (t : FileTree) (path : List String) : Except PathTrouble Bool :=
  match t.walk path with
  | .ok (_, .directory) => .ok true
  | .ok _ => .ok false
  | .error .nameTooLong => .error .nameTooLong
  | .error _ => .ok false

def isFile (t : FileTree) (path : List String) : Bool :=
  match t.walk path with
  | .ok (_, .file _) => true
  | _ => false

def read (t : FileTree) (path : List String) : Except PathTrouble (List UInt8) :=
  match t.walk path with
  | .ok (_, .file bytes) => .ok bytes
  | .ok (_, .directory) => .error .isDirectory
  | .error trouble => .error trouble

/-- Puts a node at a path without `..`, in place of what stood there. -/
def set (t : FileTree) (path : List String) (node : Node) : FileTree :=
  ⟨if (t.nodes.lookup path).isSome then
      t.nodes.map fun entry => if entry.1 = path then (path, node) else entry
    else t.nodes ++ [(path, node)]⟩

/-- Writes a file into a directory that is there. -/
def write (t : FileTree) (path : List String) (bytes : List UInt8) : Except PathTrouble FileTree :=
  match t.walk path with
  | .ok (place, .file _) => .ok (t.set place (.file bytes))
  | .ok (_, .directory) => .error .isDirectory
  | .error .notFound =>
    match t.walk path.dropLast, path.getLast? with
    | .ok (place, .directory), some name => .ok (t.set (place ++ [name]) (.file bytes))
    | _, _ => .error .notFound
  | .error trouble => .error trouble

/-- Makes the directories on the way that are missing, from a place that was reached. -/
def makeFrom (t : FileTree) (reached : List String) : List String → FileTree
  | [] => t
  | component :: rest =>
    let place := reached ++ [component]
    makeFrom (if (t.at? place).isSome then t else t.set place .directory) place rest

/-- The path up to its first component that is too long, if it has one. -/
def tooLongAt? : List String → Option (List String)
  | [] => none
  | component :: rest =>
    if isTooLong component then some [component]
    else (tooLongAt? rest).map (component :: ·)

/-- Makes a directory with all that are missing on its way. A directory that is there
already is kept; anything else on the way stops it, at the path that is given back. The
directories before a name that is too long are made all the same. -/
def makeDirectory (t : FileTree) (path : List String) :
    FileTree × Except (PathTrouble × List String) Unit :=
  match t.walk path with
  | .ok (_, .directory) => (t, .ok ())
  | .ok (_, .file _) => (t, .error (.alreadyThere, path))
  | .error .notFound =>
    match tooLongAt? path with
    | some place => (t.makeFrom [] place.dropLast, .error (.nameTooLong, place))
    | none => (t.makeFrom [] path, .ok ())
  | .error trouble => (t, .error (trouble, path))

/-- The names right below a place without `..`, with what stands there. -/
def childrenAt (t : FileTree) (place : List String) : List (String × Node) :=
  t.nodes.filterMap fun entry =>
    match entry.1.getLast? with
    | some name => if entry.1 = place ++ [name] then some (name, entry.2) else none
    | none => none

/-- The names in a directory with what stands there. -/
def children (t : FileTree) (directory : List String) : List (String × Node) :=
  match t.walk directory with
  | .ok (place, .directory) => t.childrenAt place
  | _ => []

/-- A directory and all directories below it, named from it. -/
def directoriesFrom (t : FileTree) (directory : List String) : List (List String) :=
  match t.walk directory with
  | .ok (place, .directory) =>
    directory :: t.nodes.filterMap fun entry =>
      if entry.2 = .directory && place.isPrefixOf entry.1 && entry.1 ≠ place then
        some (directory ++ entry.1.drop place.length)
      else none
  | _ => []

/-- The files below a directory, by the components of their paths seen from it. -/
def filesBelow (t : FileTree) (directory : List String) : List (List String × List UInt8) :=
  t.nodes.filterMap fun entry =>
    match entry.2 with
    | .file bytes =>
      if directory.isPrefixOf entry.1 && entry.1 ≠ directory then
        some (entry.1.drop directory.length, bytes)
      else none
    | .directory => none

/-- Places a file with all the directories on its way. -/
def place (t : FileTree) (path : List String) (node : Node) : FileTree :=
  (t.makeFrom [] path.dropLast).set path node

end FileTree

end ReplayFlow
