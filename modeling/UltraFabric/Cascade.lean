/-
# UltraFabric.Cascade — multipliers that feed their neighbours

A multiplier passes its result on when one of its cascade outputs lies on the wire of a cascade
input of another multiplier, or one pip away from it. `Device.cascade` keeps for every multiplier
the first neighbour found this way.
-/
import UltraFabric.Device
import UltraFabric.Primitive

namespace UltraFabric

set_option autoImplicit false

namespace Device

def isMultiplier (device : Device) (bel : BelId) : Bool :=
  match device.bel? bel with
  | some info => info.type = "DSP"
  | none => false

/-- Another multiplier with a cascade input on a wire. -/
def cascadeInputOn? (device : Device) (bel : BelId) (wire : WireId) : Option BelId :=
  ((device.pinsOn wire).find? fun (other, pin) =>
    other ≠ bel && device.isMultiplier other && Primitive.isCascadeInput pin).map Prod.fst

/-- The wires of the cascade outputs of a bel. -/
def cascadeOutputs (device : Device) (bel : BelId) (info : BelInfo) : List WireId :=
  (info.pins.filter fun pin => Primitive.isCascadeOutput pin.name).filterMap fun pin =>
    device.pinWire? bel pin.name

/-- The neighbour that a multiplier feeds. -/
def cascadeNeighbour? (device : Device) (bel : BelId) (info : BelInfo) : Option BelId :=
  (device.cascadeOutputs bel info).findSome? fun wire =>
    (wire :: (device.leaving wire).map Arc.target).findSome? (device.cascadeInputOn? bel)

/-- Every multiplier that feeds a neighbour, with that neighbour. -/
def cascade (device : Device) : Std.ExtTreeMap BelId BelId :=
  (device.bels.filter (·.2.type = "DSP")).foldl (fun links (bel, info) =>
    match device.cascadeNeighbour? bel info with
    | some next => links.insert bel next
    | none => links) ∅

end Device

end UltraFabric
