import ReplayFlow.Path
import ReplayFlow.Storage.Document
import ReplayFlow.Storage.FileTree
import ReplayFlow.Text.Case

/-!
The stored catalog of a transaction: the file of the first of three spellings of
its code that has one.
-/

namespace ReplayFlow

namespace Catalog

/-- The file names of a transaction's catalog, by preference. -/
def fileNames (tcode : String) : List String :=
  [uppercase tcode, lowercase tcode, tcode].map (· ++ "-targets.json")

def loadFile (t : FileTree) (path : List String) (tcode : String) : Except Fault Json := do
  let file := path.getLast?.getD ""
  match t.read path with
  | .error trouble => .error (.atPath trouble (Path.absolute path))
  | .ok bytes =>
    match ← Storage.readDocument bytes with
    | .broken place => .error (.malformed (.catalogNotJson tcode file place))
    | .document (.obj fields) => .ok (.obj fields)
    | .document _ => .error (.malformed (.catalogNotObject tcode file))

/-- Loads the first of the files that is there. -/
def loadFirst (t : FileTree) (directory : List String) (tcode : String) :
    List String → Except Fault (Option Json)
  | [] => .ok none
  | name :: rest =>
    let path := Path.seenFrom directory name
    if Path.hasNull name then loadFirst t directory tcode rest
    else
      match t.exists? path with
      | .error trouble => .error (.atPath trouble (Path.absolute path))
      | .ok false => loadFirst t directory tcode rest
      | .ok true => (loadFile t path tcode).map some

/-- The catalog of a transaction, if it has one. -/
def load (t : FileTree) (directory : List String) (tcode : String) : Except Fault (Option Json) :=
  loadFirst t directory tcode (fileNames tcode)

end Catalog

end ReplayFlow
