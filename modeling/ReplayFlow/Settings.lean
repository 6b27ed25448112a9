import ReplayFlow.Environment
import ReplayFlow.Json.Basic

/-!
Settings, read from the variables of an environment; what has no variable keeps
its default.
-/

namespace ReplayFlow

structure Settings where
  inputDirectory : String := "./sap-gui-env"
  outputDirectory : String := "./output"
  targetsDirectory : String := "./sap-targets"
  mainFlow : Bool := false
  mainFlowVersion : String := "2.3"
  mainFlowText : String := "Individual SAP flow processing"
  workers : Nat := 1
  origins : List String := ["http://localhost:5173"]
  workers_pos : 0 < workers := by decide

namespace Settings

/-- The settings that an environment asks for, with what is reported about it. -/
def ofEnvironment (environment : Environment) : Settings × List Notice :=
  let plain : Settings := {}
  let (workers, notices) := environment.integer "SAPFLOW_WORKERS" plain.workers
  ({ inputDirectory := environment.value "SAPFLOW_INPUT_DIR" plain.inputDirectory
     outputDirectory := environment.value "SAPFLOW_OUTPUT_DIR" plain.outputDirectory
     targetsDirectory := environment.value "SAPFLOW_TARGETS_DIR" plain.targetsDirectory
     mainFlow := environment.isOn "SAPFLOW_MAIN_FLOW"
     mainFlowVersion := environment.value "SAPFLOW_MAIN_FLOW_VERSION" plain.mainFlowVersion
     mainFlowText := environment.value "SAPFLOW_MAIN_FLOW_TX" plain.mainFlowText
     workers := max workers.toNat 1
     origins := environment.items "ALLOW_ORIGINS" plain.origins
     workers_pos := by omega },
    notices)

/-- What a main flow says about itself. -/
def mainFlowInfo (s : Settings) : Entries Json :=
  [("version", .str s.mainFlowVersion), ("tx", .str s.mainFlowText)]

end Settings

end ReplayFlow
