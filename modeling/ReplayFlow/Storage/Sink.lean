import ReplayFlow.Json.Printer
import ReplayFlow.Path
import ReplayFlow.Storage.FileTree

/-!
Where documents go: each under a name, into memory or as a file of a directory.
Writing several stops at the first that cannot be written, and what was written
before stays.
-/

namespace ReplayFlow

/-- A named document to be written. -/
structure Output where
  name : String
  document : Json

namespace Storage

/-- The bytes of a stored document. -/
def documentBytes (document : Json) : List UInt8 :=
  Utf8.encode (Json.renderIndented document).toList

/-- Writes a document into a directory, which is made if it is missing. What is made stays
when the document itself cannot be written. -/
def writeInto (t : FileTree) (directory : List String) (output : Output) :
    FileTree × Except Fault Unit :=
  match t.makeDirectory directory with
  | (t, .error (trouble, place)) => (t, .error (.atPath trouble (Path.absolute place)))
  | (t, .ok ()) =>
    match Path.join (Path.absolute directory) output.name with
    | .error fault => (t, .error fault)
    | .ok path =>
      match t.write path (documentBytes output.document) with
      | .ok t => (t, .ok ())
      | .error trouble => (t, .error (.atPath trouble (Path.absolute path)))

/-- Writes documents into a directory one after the other. -/
def writeAllInto (t : FileTree) (directory : List String) : List Output →
    FileTree × Except Fault Unit
  | [] => (t, .ok ())
  | output :: rest =>
    match writeInto t directory output with
    | (t, .ok ()) => writeAllInto t directory rest
    | (t, .error fault) => (t, .error fault)

/-- Keeps documents in memory; a later one of the same name takes the place of an earlier. -/
def writeAllTo (memory : OrderedMap Json) (outputs : List Output) : OrderedMap Json :=
  outputs.foldl (fun acc output => acc.insert output.name output.document) memory

end Storage

end ReplayFlow
