import ReplayFlow.Service.Reply
import ReplayFlow.Service.Site
import ReplayFlow.Storage.Document
import ReplayFlow.Storage.Source

/-!
The control types of all stored flows: the texts that their metadata list, each
once and sorted. A file that is broken is reported and passed over.
-/

namespace ReplayFlow.Service

/-- The texts in a value: members of an array, keys of an object, characters of a text. -/
def textsIn (v : Json) : Except Fault (List String) :=
  if !v.isGiven then .ok []
  else
    match v with
    | .arr items => .ok (items.filterMap Json.string?)
    | .obj fields => .ok (Entries.keys fields)
    | .str s => .ok (s.toList.map fun c => String.ofList [c])
    | _ => .error .notIterable

/-- The control types that the metadata of a document list. -/
def controlTypesIn : Json → Except Fault (List String)
  | .obj fields =>
    match Entries.field fields "metadata" with
    | .obj metadata => textsIn (Entries.field metadata "controlTypes")
    | _ => .ok []
  | _ => .ok []

/-- Adds the control types of some files of a directory. -/
def controlTypesOf (t : FileTree) (directory : List String) (found : List String) :
    List String → Run (List String)
  | [] => return found
  | file :: rest => do
    let path := directory ++ [file]
    let bytes ← .ofExcept (Storage.atPath path (t.read path))
    match ← .ofExcept (Storage.readDocument bytes) with
    | .broken place =>
      .report [.unreadableFlow file place]
      controlTypesOf t directory found rest
    | .document v =>
      let types ← .ofExcept (controlTypesIn v)
      controlTypesOf t directory (found ++ types) rest

/-- The files of a directory whose names fit the pattern of flows, sorted. -/
def flowFiles (t : FileTree) (directory : List String) : List String :=
  Text.sorted (((t.children directory).map Prod.fst).filter
    (Storage.fitsPattern Storage.defaultPattern))

def Site.listControlTypes (s : Site) (t : FileTree) : Run Reply := do
  let directory := s.walkTo s.settings.outputDirectory
  let found ←
    if ← .ofExcept (Storage.atPath directory (t.isDirectory? directory)) then
      controlTypesOf t directory [] (flowFiles t directory)
    else pure []
  return .ok (.obj [("controlTypes",
    .arr ((Text.sorted found.eraseDups).map Json.str))])

end ReplayFlow.Service
