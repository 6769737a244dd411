/-
# UltraFabric.Chip.Soundness — which descriptions make sense

A description is usable when its grid has as many tiles as it says, every index in it leads
somewhere, no wire is in two nodes and no two bels share a location. `firstError?` finds the first
thing that is wrong, in the order in which a description is gone through: grid, tiles, types, nodes,
locations.
-/
import Std.Data.ExtTreeSet
import UltraFabric.Chip

namespace UltraFabric

set_option autoImplicit false

/-- What is wrong with the description of a chip. -/
inductive ChipError where
  | gridTooLarge (width height : Nat)
  | tileCount (count width height : Nat)
  | unknownType (tile type : Nat)
  | pipWire (type : Name) (pip : Nat)
  | pipBel (type : Name) (pip bel : Nat)
  | pinWire (type bel pin : Name) (wire : Nat)
  | groupBel (type : Name) (group bel : Nat)
  | missingMember (wire : WireId)
  | sharedMember (wire : WireId)
  | sharedLocation (location : Loc)
  deriving DecidableEq, Repr

def ChipError.message : ChipError → String
  | .gridTooLarge width height => s!"{width}x{height} grid is too large"
  | .tileCount count width height => s!"{count} tiles for a {width}x{height} grid"
  | .unknownType tile type => s!"tile {tile} has unknown type {type}"
  | .pipWire type pip => s!"tile type {type}: pip {pip} references a missing wire"
  | .pipBel type pip bel => s!"tile type {type}: pip {pip} routes through missing bel {bel}"
  | .pinWire type bel pin wire => s!"tile type {type}: pin {bel}.{pin} references missing wire {wire}"
  | .groupBel type group bel => s!"tile type {type}: mux group {group} references missing bel {bel}"
  | .missingMember wire => s!"node member {wire.tile}/{wire.index} does not exist"
  | .sharedMember wire => s!"tile wire {wire.tile}/{wire.index} is part of two nodes"
  | .sharedLocation location => s!"two bels at X{location.x}Y{location.y}Z{location.z}"

namespace TileType

/-- A pip without a wire at one of its ends, or through a bel that is not there. -/
def pipError? (type : TileType) (pip : PipInfo) (index : Nat) : Option ChipError :=
  if type.wires.size ≤ pip.source ∨ type.wires.size ≤ pip.target then
    some (.pipWire type.name index)
  else
    match pip.detail.bind PipDetail.bel with
    | some bel => if type.bels.size ≤ bel then some (.pipBel type.name index bel) else none
    | none => none

/-- A pin of a bel without a wire. -/
def pinError? (type : TileType) (bel : BelInfo) : Option ChipError :=
  (bel.pins.find? fun pin => type.wires.size ≤ pin.wire).map fun pin =>
    .pinWire type.name bel.name pin.name pin.wire

/-- A member of a group that is not there. -/
def groupError? (type : TileType) (group : MuxGroup) (index : Nat) : Option ChipError :=
  (group.bels.find? fun bel => type.bels.size ≤ bel).map fun bel =>
    .groupBel type.name index bel

def error? (type : TileType) : Option ChipError :=
  (type.pips.toList.zipIdx.findSome? fun (pip, index) => type.pipError? pip index).or <|
  (type.bels.toList.findSome? type.pinError?).or <|
  type.muxGroups.toList.zipIdx.findSome? fun (group, index) => type.groupError? group index

end TileType

namespace Chip

/-- The grid has no more than 2^32 - 1 places and as many tiles as places. -/
def gridError? (chip : Chip) : Option ChipError :=
  if 4294967296 ≤ chip.width * chip.height then some (.gridTooLarge chip.width chip.height)
  else if chip.tiles.size ≠ chip.width * chip.height then
    some (.tileCount chip.tiles.size chip.width chip.height)
  else none

def tileError? (chip : Chip) : Option ChipError :=
  chip.tiles.toList.zipIdx.findSome? fun (tile, index) =>
    if chip.types.size ≤ tile.type then some (.unknownType index tile.type) else none

def typeError? (chip : Chip) : Option ChipError :=
  chip.types.toList.findSome? TileType.error?

/-- Goes through the members of all nodes, given those already seen. -/
def nodeErrorFrom? (chip : Chip) : Std.ExtTreeSet WireId → List WireId → Option ChipError
  | _, [] => none
  | seen, wire :: rest =>
    match chip.wireInfo? wire with
    | none => some (.missingMember wire)
    | some _ =>
      if wire ∈ seen then some (.sharedMember wire)
      else nodeErrorFrom? chip (seen.insert wire) rest

def nodeError? (chip : Chip) : Option ChipError :=
  chip.nodeErrorFrom? ∅ chip.nodes.flatten

/-- Goes through the locations of all bels, given those already seen. -/
def locationErrorFrom? : Std.ExtTreeSet Loc → List Loc → Option ChipError
  | _, [] => none
  | seen, location :: rest =>
    if location ∈ seen then some (.sharedLocation location)
    else locationErrorFrom? (seen.insert location) rest

def locationError? (chip : Chip) : Option ChipError :=
  locationErrorFrom? ∅ (chip.belEntries.map fun (bel, info) => chip.locationOf bel info)

/-- The first thing that is wrong with a description. -/
def firstError? (chip : Chip) : Option ChipError :=
  chip.gridError?.or <| chip.tileError?.or <| chip.typeError?.or <| chip.nodeError?.or <|
  chip.locationError?

/-- A description in which nothing is wrong. -/
def Sound (chip : Chip) : Prop :=
  chip.firstError? = none

instance (chip : Chip) : Decidable chip.Sound :=
  inferInstanceAs (Decidable (_ = none))

end Chip

end UltraFabric
