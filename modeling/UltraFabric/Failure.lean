/-
# UltraFabric.Failure — why a run ends early
-/
import UltraFabric.ConfigRecord
import UltraFabric.Document.File
import UltraFabric.Image
import UltraFabric.LowSkew.Reserve
import UltraFabric.Plan.Setup

namespace UltraFabric

set_option autoImplicit false

/-- Why a run ends early. -/
inductive Failure where
  | file (error : FileError)
  | chip (error : ChipError)
  | netlist (error : NetlistError)
  | placement (error : PlacementError)
  | missingTileData (missing : MissingTileData)
  | noPath (noPath : NoPath)
  | unknownCellType (unknown : UnknownCellType)
  | record (error : RecordError)
  | option (error : OptionError)
  | tierConflict (conflict : TierConflict)
  | unknownArchitecture (name : String)
  /-- The image could not be stored. -/
  | output
  deriving DecidableEq, Repr

def Failure.message : Failure → String
  | .file error => error.message
  | .chip error => "inconsistent database: " ++ error.message
  | .netlist error => "inconsistent database: " ++ error.message
  | .placement error => "inconsistent database: " ++ error.message
  | .missingTileData missing => missing.message
  | .noPath missing => missing.message
  | .unknownCellType unknown => unknown.message
  | .record error => error.message
  | .option error => error.message
  | .tierConflict conflict => conflict.message
  | .unknownArchitecture name => s!"unknown uarch {name}"
  | .output => "I/O error"

/-- The line that ends a run. -/
def Failure.line (failure : Failure) : String :=
  "ERROR: " ++ failure.message

end UltraFabric
