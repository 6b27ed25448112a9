import ReplayFlow.Alias.Stored
import ReplayFlow.Batch.Output
import ReplayFlow.Recording.Document
import ReplayFlow.Service.Body
import ReplayFlow.Service.Reply
import ReplayFlow.Service.Site
import ReplayFlow.Storage.CatalogFile

/-!
Flows in the output directory, one file for each transaction code: they are
read, saved after editing, and validated against the catalog of their
transaction and the alias table that was written with them.
-/

namespace ReplayFlow.Service

namespace Site

/-- The file of a flow; it lies in the output directory. -/
def flowPath (s : Site) (tcode : String) : Except Fault (List String) := do
  let directory ← s.resolve s.settings.outputDirectory
  Path.join (Path.absolute directory) (flowFile tcode)

/-- The fields of a stored flow. -/
def readFlow (s : Site) (t : FileTree) (tcode : String) : Handler (Entries Json) := do
  let path ← .ofPath (s.flowPath tcode)
  if ← .ofExcept (Storage.atPath path (t.exists? path)) then
    let bytes ← .ofExcept (Storage.atPath path (t.read path))
    match Recording.parseBytes bytes tcode with
    | .ok (.obj fields) => return fields
    | .ok _ => throw (.badRequest ("Flow " ++ tcode ++ " is not a JSON object"))
    | .error (.malformed cause) => throw (.badRequest cause.message)
    | .error fault => .ofExcept (.error fault)
  else throw (.notFound ("Flow not found: " ++ tcode))

/-- Stores an edited flow; what is wrong with it is reported and not refused. -/
def saveFlow (s : Site) (t : FileTree) (tcode : String) (body : FlowBody) :
    FileTree × Handler Reply :=
  match s.flowPath tcode with
  | .error fault => (t, throw (.badRequest fault.message))
  | .ok path =>
    let (t, written) :=
      Storage.writeInto t path.dropLast ⟨path.getLast?.getD "", body.document⟩
    (t, do
      .ofExcept written
      let violations ← .ofExcept (Flow.validate body.document)
      return .ok (.obj [("tcode", .str tcode), ("saved", .bool true),
        ("violations", .arr (violations.map Violation.toJson))]))

/-- The table in the first of some files that holds one; a file that is broken is reported. -/
def storedTableIn (s : Site) (t : FileTree) : List String → Run (Option StoredTable)
  | [] => return none
  | file :: rest => do
    let path := s.walkTo s.settings.outputDirectory ++ [file]
    if ← .ofExcept (Storage.atPath path (t.exists? path)) then
      let bytes ← .ofExcept (Storage.atPath path (t.read path))
      match ← .ofExcept (Storage.readDocument bytes) with
      | .broken place =>
        .report [.unreadableAliases (Path.child s.settings.outputDirectory file) place]
        storedTableIn s t rest
      | .document (.obj fields) => return some (.ofFields fields)
      | .document _ => storedTableIn s t rest
    else storedTableIn s t rest

/-- The alias table written with the flows, or else the one in a main flow. -/
def storedTable (s : Site) (t : FileTree) : Run (Option StoredTable) :=
  s.storedTableIn t [aliasesFile, mainFlowFile]

/-- The catalog of a transaction; a broken one is answered as a bad request. -/
def catalog (s : Site) (t : FileTree) (tcode : String) : Handler (Option Json) :=
  match Catalog.load t (s.walkTo s.settings.targetsDirectory) tcode with
  | .error (.malformed cause) => throw (.badRequest cause.message)
  | outcome => .ofExcept outcome

/-- What is wrong with a stored flow: with its graph, and with its targets if there is a
catalog. -/
def validateFlow (s : Site) (t : FileTree) (tcode : String) : Handler Reply := do
  let flow ← s.readFlow t tcode
  let ofGraph ← .ofExcept (Flow.validate (.obj flow))
  let catalog ← s.catalog t tcode
  let ofTargets ←
    match catalog with
    | none => pure []
    | some catalog => do
      let table ← .ofRun (s.storedTable t)
      let resolver :=
        match table with
        | some table => table.resolver tcode
        | none => Flow.resolveAlone
      .ofExcept (Flow.validateTargets resolver (.obj flow) catalog)
  let violations := ofGraph ++ ofTargets
  return .ok (.obj [("tcode", .str tcode),
    ("valid", .bool !(violations.any fun v => v.defect.isError)),
    ("catalogChecked", .bool catalog.isSome),
    ("violations", .arr (violations.map Violation.toJson))])

end Site

end ReplayFlow.Service
