import ReplayFlow.Alias.Table
import ReplayFlow.Flow.Catalog
import ReplayFlow.Flow.Graph

/-!
The targets of a flow against a catalog of captured controls. A target is a
name, a written path or a control path; what it stands for must be the id of a
control in some group of the catalog.
-/

namespace ReplayFlow

namespace Alias

/-- Whether a target is written with a token. -/
def hasToken (target : String) : Bool := Text.occursIn ['\x7b', '\x7b'] target.toList

end Alias

namespace AliasTable

/-- What a target stands for: a written path is expanded, a name is looked up, and what has
no path stands for itself. -/
def resolveTarget (t : AliasTable String) (tcode : Option String) (target : String) : String :=
  if Alias.hasToken target then Alias.expand t.heads target
  else
    match t.resolve target tcode with
    | some path => if path = "" then target else path
    | none => target

end AliasTable

namespace Flow

/-- How a target is turned into a control path; `none` leaves the target unchecked. -/
abbrev Resolver := String → Except Fault (Option String)

/-- Without a table only plain targets can be checked. -/
def resolveAlone : Resolver := fun target =>
  .ok (if Alias.hasToken target then none else some target)

def resolveBy (t : AliasTable String) (tcode : Option String) : Resolver := fun target =>
  .ok (some (t.resolveTarget tcode target))

/-- Targets that a program handles itself are not checked. -/
def isProgrammatic (target : String) : Bool := Text.occursIn "programmatic".toList target.toList

def targetViolations (resolve : Resolver) (ids : List Json) :
    List FlowStep → Except Fault (List Violation)
  | [] => .ok []
  | step :: rest =>
    match Entries.field step.body "target" with
    | .str target =>
      if isProgrammatic target then targetViolations resolve ids rest
      else do
        let resolved ← resolve target
        let later ← targetViolations resolve ids rest
        match resolved with
        | none => .ok later
        | some path =>
          if ids.any fun id => id.string? = some path then .ok later
          else .ok (⟨step.id, .targetNotFound target⟩ :: later)
    | _ => targetViolations resolve ids rest

/-- The targets of a flow that are not in a catalog. -/
def validateTargets (resolve : Resolver) (flow catalog : Json) : Except Fault (List Violation) := do
  let ids ← Catalog.ids catalog
  targetViolations resolve ids (← steps flow)

end Flow

end ReplayFlow
