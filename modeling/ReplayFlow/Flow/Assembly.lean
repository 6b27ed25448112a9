import ReplayFlow.Flow.Relink

/-!
From a transaction to the document of its flow, in the shape of its recording. A
legacy flow names its targets by alias and has its references repaired; the
steps of the other shapes keep the fields of their source.
-/

namespace ReplayFlow

/-- A flow document with what was repaired in it. -/
structure Flow where
  document : Json
  notices : List Notice

namespace Flow

def version : String := "1.0"

/-- A field that is written only when its value is given. -/
def given (key : String) (value : Json) : List (String × Json) :=
  if value.isGiven then [(key, value)] else []

def parameterFields (step : Step) : List (String × Json) :=
  if step.action = "callProgram" then [("method", step.method), ("paramKey", step.paramKey)]
  else if step.action = "set" then given "paramKey" step.paramKey
  else []

def conditionFields (step : Step) : List (String × Json) :=
  if step.action = "condition" then
    [("operator", step.operator.orElse (.str "exists")),
      ("true", step.ifTrue.orElse (.str endStep)), ("false", step.ifFalse.orElse (.str endStep))]
  else []

/-- The body of a step of a legacy flow. -/
def legacyBody (step : Step) : Body :=
  [("action", .str step.action)] ++
    given "target" (.ofOption (StepMap.expectedTarget? step)) ++
    parameterFields step ++
    given "next" step.next ++
    conditionFields step ++
    (if step.action = "waitFor" then given "timeout" step.timeout else []) ++
    (if step.paramValue.isNull then [] else [("paramValue", step.paramValue)]) ++
    given "controlType" (.ofOption step.kind)

/-- The body of a carried step: its action, and its source fields. -/
def carriedBody (step : Step) : Body := Entries.insertAll [("action", .str step.action)] step.fields

def legacySteps (t : Transaction) : StepMap :=
  .ofList (t.steps.map fun step => (step.id, legacyBody step))

def assembleLegacy (created : Json) (t : Transaction) : Flow :=
  let repaired := (legacySteps t).relink t.steps
  ⟨.obj [("steps", repaired.steps.toJson),
    ("metadata", .obj [("tcode", .str t.tcode), ("version", .str version),
      ("created", created), ("controlTypes", .arr (t.kinds.map .str))])],
    repaired.notices⟩

def assembleStepsOnly (t : Transaction) : Flow :=
  let steps : StepMap := .ofList (t.steps.map fun step => (step.id, carriedBody step))
  ⟨.obj [("steps", steps.toJson)], []⟩

/-- The body of a step outside all contexts. -/
def freeBody (step : Step) : Body :=
  [("action", .str step.action)] ++ given "method" step.method ++
    given "paramKey" step.paramKey ++ given "next" step.next

/-- The steps outside contexts, and the steps of each context under their names. -/
structure Grouped where
  free : StepMap := ∅
  contexts : OrderedMap StepMap := ∅

/-- The name of a step in its context; a step without one goes by its id. -/
def nameInContext (step : Step) : String :=
  match step.name with
  | some name => if name = "" then step.id else name
  | none => step.id

def Grouped.add (g : Grouped) (step : Step) : Grouped :=
  match step.context with
  | none => { g with free := g.free.insert step.id (freeBody step) }
  | some context =>
    let steps := (g.contexts.get? context).getD ∅
    { g with contexts :=
        g.contexts.insert context (steps.insert (nameInContext step) (carriedBody step)) }

def assembleContextual (t : Transaction) : Flow :=
  let grouped := t.steps.foldl Grouped.add {}
  let free : Entries Json := Entries.mapValues .obj grouped.free.entries
  let contexts : Entries Json := Entries.mapValues StepMap.toJson grouped.contexts.entries
  ⟨.obj ([("steps", .obj (Entries.insertAll free contexts))] ++
    given "$meta" (.obj t.header) ++ given "targetContext" (.obj t.targetContext)), []⟩

/-- The flow of a transaction; `created` is the date of a legacy flow. -/
def assemble (created : Json) (t : Transaction) : Flow :=
  match t.format with
  | .contextual => assembleContextual t
  | .stepsOnly => assembleStepsOnly t
  | .legacy => assembleLegacy created t

/-- Refuses a legacy transaction in which a reference is an array or object. -/
def check (t : Transaction) : Except Fault Unit :=
  match t.format with
  | .legacy => (legacySteps t).check
  | _ => .ok ()

end Flow

end ReplayFlow
