/-
# UltraFabric.TileNames — what tiles are called

The name of a tile is its own name, or its coordinates when it has none, followed by a colon and the
name of its type. What stands before the last colon is the bank of the pads in the tile.
-/
import UltraFabric.Device
import UltraFabric.Text.Chars

namespace UltraFabric

set_option autoImplicit false

/-- A tile name without the type behind the last colon. -/
def withoutTileType (name : String) : String :=
  match Text.splitAtLast? ':' name.toList with
  | some (bank, _) => String.ofList bank
  | none => name

/-- Names and lobes of the tiles of a device; before a device is known there are none. -/
structure TileNames where
  names : Array String
  lobes : Array (Option Nat)
  deriving DecidableEq, Repr

namespace TileNames

def empty : TileNames := ⟨#[], #[]⟩

/-- The full name of a tile. -/
def nameOf (chip : Chip) (index : Nat) (tile : Tile) : String :=
  let own :=
    match tile.detail with
    | some detail => detail.name
    | none =>
      let (x, y) := chip.tileXY index
      s!"X{x}Y{y}"
  let type := ((chip.types[tile.type]?).map TileType.name).getD ""
  own ++ ":" ++ type

def ofChip (chip : Chip) : TileNames where
  names := chip.tiles.mapIdx (nameOf chip)
  lobes := chip.tiles.map fun tile => tile.detail.bind TileDetail.lobe

def lobe? (tiles : TileNames) (tile : Nat) : Option Nat :=
  tiles.lobes[tile]?.join

/-- The name of a tile; tiles that are not there have the empty name. -/
def name (tiles : TileNames) (tile : Nat) : String :=
  tiles.names[tile]?.getD ""

def bank (tiles : TileNames) (tile : Nat) : String :=
  withoutTileType (tiles.name tile)

end TileNames

end UltraFabric
