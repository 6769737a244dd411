/-
# UltraFabric.Notice — what a run has to say

Notices are collected while the work is done and written one on a line.
-/
import UltraFabric.Legality.Violation
import UltraFabric.Netlist

namespace UltraFabric

set_option autoImplicit false

inductive Notice where
  | chipLoaded (name : String) (width height : Nat)
  | netlistLoaded (cells nets : Nat)
  | tablesFilled (lobes links pads banks : Nat)
  | illegalCell (cell : Name) (tile : String) (bel : Name) (violation : Violation)
  | netWithoutDriver (net : Name)
  | driverNotPlaced (driver : PortRef) (net : Name)
  | sinkNotPlaced (sink : PortRef) (net : Name)
  | pathsReserved (pips nets : Nat)
  | recordsFound (count : Nat) (path : String)
  | padNotFound (pad location : String)
  | requirementUnfit (cell : Name)
  | requirementTaken (cell : Name)
  | illegalCells (count : Nat)
  | cellNotPlaced (cell : Name)
  | imageWritten (instances : Nat) (path : String)
  deriving DecidableEq, Repr

namespace Notice

/-- Whether something may be wrong. -/
def isWarning : Notice → Bool
  | .netWithoutDriver .. | .driverNotPlaced .. | .sinkNotPlaced .. | .padNotFound ..
  | .requirementUnfit .. | .requirementTaken .. | .illegalCells .. | .cellNotPlaced .. => true
  | _ => false

def text : Notice → String
  | .chipLoaded name width height => s!"Loaded chip database {name} ({width}x{height})"
  | .netlistLoaded cells nets => s!"Loaded {cells} cells and {nets} nets"
  | .tablesFilled lobes links pads banks =>
    s!"NG-Ultra: {lobes} lobes with GCKs, {links} DSP cascade links, {pads} I/O sites in {banks} banks"
  | .illegalCell cell tile bel violation =>
    s!"{cell} is not valid at {tile}/{bel}: {violation.message}"
  | .netWithoutDriver net => s!"clock net {net} has no driver, skipping low-skew routing"
  | .driverNotPlaced driver net => s!"driver {driver.text} of clock net {net} is not placed"
  | .sinkNotPlaced sink net => s!"sink {sink.text} of clock net {net} is not placed"
  | .pathsReserved pips nets => s!"Low-skew routing reserved {pips} pips for {nets} nets"
  | .recordsFound count path => s!"Applying {count} configuration records from {path}"
  | .padNotFound pad location =>
    s!"no I/O named {pad} in the design, ignoring its location {location}"
  | .requirementUnfit cell => s!"{cell} can't be placed at its constrained location"
  | .requirementTaken cell => s!"constrained location of {cell} is already taken"
  | .illegalCells count => s!"{count} cells are placed illegally"
  | .cellNotPlaced cell => s!"cell {cell} is not placed, it won't be configured"
  | .imageWritten instances path => s!"Wrote {instances} instances to {path}"

def line (notice : Notice) : String :=
  (if notice.isWarning then "Warning: " else "Info: ") ++ notice.text

end Notice

end UltraFabric
