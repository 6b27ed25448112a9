import ReplayFlow.Flow.StepMap

/-!
References under changed step ids. Steps of a transaction are matched with the
steps of a flow: by id first, and then by action and target, each flow step once.
References to a matched step are renamed, and then the map is repaired.
-/

namespace ReplayFlow.StepMap

/-- The target a step has in a flow: its alias, or else its path; none if it has no path. -/
def expectedTarget? (step : Step) : Option String :=
  match step.target with
  | some path =>
    if path = "" then none
    else
      match step.aliasName with
      | some name => if name = "" then some path else some name
      | none => some path
  | none => none

/-- Whether a flow step has the action of a step and, when that has a target, its target. -/
def fits (step : Step) (body : Body) : Bool :=
  Body.hasAction body step.action &&
    match expectedTarget? step with
    | some target => (Entries.field body "target").string? = some target
    | none => true

section

variable {β : Type}

/-- Matches the ids that the flow keeps. -/
def matchKept (output : OrderedMap β) (mapping : OrderedMap String) (step : Step) :
    OrderedMap String :=
  if output.contains step.id then mapping.insert step.id step.id else mapping

/-- Matches an id that is not matched yet with the first free flow step that fits. -/
def matchMoved (fits : Step → β → Bool) (output : OrderedMap β) (mapping : OrderedMap String)
    (step : Step) : OrderedMap String :=
  if mapping.contains step.id then mapping
  else
    match output.entries.find? fun entry =>
        !mapping.values.contains entry.1 && fits step entry.2 with
    | some entry => mapping.insert step.id entry.1
    | none => mapping

def idMappingBy (fits : Step → β → Bool) (output : OrderedMap β) (parsed : List Step) :
    OrderedMap String :=
  parsed.foldl (matchMoved fits output) (parsed.foldl (matchKept output) ∅)

end

/-- The flow step of each matched step. -/
def idMapping (output : StepMap) (parsed : List Step) : OrderedMap String :=
  idMappingBy fits output parsed

/-- Renames one reference of a step. -/
def renameReference (mapping : OrderedMap String) (body : Body) (key : String) : Body :=
  match Entries.field body key with
  | .str reference =>
    if reference = "" then body
    else
      match mapping.get? reference with
      | some id => Entries.insert body key (.str id)
      | none => body
  | _ => body

def rename (mapping : OrderedMap String) (steps : StepMap) : StepMap :=
  steps.mapValues fun body => referenceKeys.foldl (renameReference mapping) body

/-- Renames the references of a flow after its steps, and repairs it. -/
def relink (output : StepMap) (parsed : List Step) : Repaired :=
  (rename (idMapping output parsed) output).repair

/-- Whether the search for a flow step ends at a value: where it fits, or is no body at all. -/
def endsSearch (step : Step) : Json → Bool
  | .obj body => fits step body
  | _ => true

/-- Whether the search for some step meets a value that is no body. -/
def searchBreaks (fields : Entries Json) (parsed : List Step) : Bool :=
  let output : OrderedMap Json := .ofList fields
  (idMappingBy endsSearch output parsed).entries.any fun entry =>
    entry.1 ≠ entry.2 && !((output.get? entry.2).getD .null).isObject

/-- Reads the steps that are to be relinked. Steps are searched before their references are
looked at. -/
def ofJsonFor (parsed : List Step) (output : Json) : Except Fault StepMap :=
  match output with
  | .obj fields =>
    if searchBreaks fields parsed then .error .notObject
    else (ofFields fields).map OrderedMap.ofList
  | .str _ => .error .notObject
  | .arr _ => .error .notObject
  | _ => .error (if parsed.isEmpty then .notObject else .notIterable)

end ReplayFlow.StepMap
