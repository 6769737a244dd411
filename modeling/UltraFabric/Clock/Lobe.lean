/-
# UltraFabric.Clock.Lobe — the clock buffers of each lobe

All global clock buffers of a device, by the lobe of their tile and within a lobe by tile and
height. A buffer in a tile without a lobe could serve nobody; such a device is refused.
-/
import UltraFabric.Clock.Buffers
import UltraFabric.TileNames

namespace UltraFabric

set_option autoImplicit false

/-- A bel that needs to know more about its tile than is known. -/
structure MissingTileData where
  tile : Nat
  bel : Name
  deriving DecidableEq, Repr

def MissingTileData.message (missing : MissingTileData) : String :=
  s!"tile {missing.tile} has no extra data, but GCK {missing.bel} requires it"

namespace ClockBuffer

/-- The buffers of a device by tile and height. -/
def ofDevice (device : Device) : List (BelId × BelInfo) :=
  (device.bels.filter (·.2.type = "GCK")).mergeSort fun a b =>
    (compare a.1.tile b.1.tile).then (compare a.2.z b.2.z) |>.isLE

/-- Adds buffers to the ends of the lists of their lobes. -/
def addToLobes (tiles : TileNames) : Std.ExtTreeMap Nat (List ClockBuffer) →
    List (BelId × BelInfo) → Except MissingTileData (Std.ExtTreeMap Nat (List ClockBuffer))
  | lobes, [] => .ok lobes
  | lobes, (bel, info) :: rest =>
    match tiles.lobe? bel.tile with
    | none => .error ⟨bel.tile, info.name⟩
    | some lobe =>
      let buffer : ClockBuffer := ⟨bel, info.clockSources.getD ClockSources.any⟩
      addToLobes tiles (lobes.insert lobe (lobes.getD lobe [] ++ [buffer])) rest

/-- The buffers of every lobe that has any. -/
def byLobe (device : Device) (tiles : TileNames) :
    Except MissingTileData (Std.ExtTreeMap Nat (List ClockBuffer)) :=
  addToLobes tiles ∅ (ofDevice device)

end ClockBuffer

end UltraFabric
