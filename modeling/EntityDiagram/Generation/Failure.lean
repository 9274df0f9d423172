import EntityDiagram.Generation.Detection
import EntityDiagram.Literal
import EntityDiagram.Model.Loading

/-!
# Why a run fails

A run may fail for reasons of its own, when there is nothing to draw, and for reasons that come from
what it works on. The former are expected and the command line answers them with a line and an exit
code. The latter end the run as they are.
-/

namespace EntityDiagram

inductive Failure where
  /-- The directory searched for models is none. -/
  | modelsNotFound (directory : Path)
  | noFiles (directory : Path)
  | noModels
  | literal (fault : Literal.Fault)
  | settings (issues : Invalid)
  /-- The environment file is not encoded as it should be. -/
  | settingsEncoding (fault : Utf8.Fault)
  /-- The pattern that selects model files is none. -/
  | pattern (fault : GlobFault)
  | file (fault : FileFault)
  | manifest (fault : Manifest.Fault)
  deriving DecidableEq

namespace Failure

def message : Failure → Text
  | modelsNotFound directory => "Models directory not found at " ++ directory.toText
  | noFiles directory => "No model files found in " ++ directory.toText
  | noModels => "No valid models found to generate ERD"
  | literal (.invalid issues) => issues.message
  | literal .noEntities => "No entities defined in schema"
  | settings issues => issues.message
  | settingsEncoding fault => fault.message
  | pattern fault => fault.message
  | file fault => fault.message
  | manifest fault => fault.message

def ofLoad : Model.LoadFault → Failure
  | .pattern fault => pattern fault
  | .file fault => file fault

def ofDetection : FileTree.DetectionFault → Failure
  | .manifest fault => manifest fault
  | .file fault => file fault

end Failure
end EntityDiagram
