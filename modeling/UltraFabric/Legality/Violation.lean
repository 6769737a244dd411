/-
# UltraFabric.Legality.Violation — why a cell may not stand on a bel
-/
import UltraFabric.Lexicon

namespace UltraFabric

set_option autoImplicit false

/-- Why a cell may not stand on a bel. -/
inductive Violation where
  | bankVoltage (bank voltage actual : String)
  | muxGroup (port other otherNet : Name)
  | muxSetting (port : Name) (decoded : Nat) (wanted : Int)
  | cascade (port other : Name)
  | clockCapacity (lobe nets buffers : Nat)
  deriving DecidableEq, Repr

def Violation.message : Violation → String
  | .bankVoltage bank voltage actual => s!"bank {bank} runs at {actual}, cell needs {voltage}"
  | .muxGroup port other otherNet => s!"shared mux input {port} is driven by {otherNet} for {other}"
  | .muxSetting port decoded wanted =>
    s!"mux of {port} is set to {decoded}, cell requires {wanted}"
  | .cascade port other => s!"{port} needs the dedicated cascade link to {other}"
  | .clockCapacity lobe nets buffers =>
    s!"lobe {lobe} can't serve {nets} clock nets with {buffers} GCKs"

end UltraFabric
