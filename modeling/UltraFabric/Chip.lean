/-
# UltraFabric.Chip — the description of a chip

A chip is a grid of tiles, row by row. Tiles of one type have the same bels, wires, pips and groups
of shared multiplexers; a tile only adds its own name and the lobe it lies in. Nodes join wires of
several tiles into one electrical wire. Nothing is assumed here about the indices in a description;
`UltraFabric.Chip.Soundness` says which descriptions make sense.
-/
import UltraFabric.Grid
import UltraFabric.Lexicon

namespace UltraFabric

set_option autoImplicit false

inductive PinDirection where
  | inout
  | input
  | output
  deriving DecidableEq, Repr

structure Pin where
  name : Name
  wire : Nat
  direction : PinDirection
  deriving DecidableEq, Repr

/-- Where the clock that a global clock buffer repeats may come from. -/
structure ClockSources where
  ring : Bool
  tube : Bool
  fabric : Bool
  deriving DecidableEq, Repr

/-- A buffer without restrictions. -/
def ClockSources.any : ClockSources := ⟨true, true, true⟩

structure BelInfo where
  name : Name
  type : Name
  z : Int
  flags : Nat
  pins : List Pin
  /-- Index of the group of bels that share the settings of their input multiplexers. -/
  muxGroup : Option Nat
  clockSources : Option ClockSources
  deriving DecidableEq, Repr

namespace BelInfo

/-- A pad with a direct connection to the clock ring. -/
def isGlobal (bel : BelInfo) : Bool :=
  bel.flags.testBit 0

/-- A bel on which no cell may be placed. -/
def isHidden (bel : BelInfo) : Bool :=
  bel.flags.testBit 1

def pin? (bel : BelInfo) (name : Name) : Option Pin :=
  bel.pins.find? (·.name = name)

end BelInfo

structure WireInfo where
  name : Name
  type : Name
  flags : Nat
  deriving DecidableEq, Repr

/-- A wire of a dedicated clock network. -/
def WireInfo.isLowSkew (wire : WireInfo) : Bool :=
  wire.flags.testBit 0

inductive PipKind where
  | normal
  | mux
  | bypass
  | virtual
  | interconnect
  deriving DecidableEq, Repr

structure PipDetail where
  name : Name
  /-- The input that a multiplexer selects when the pip is used. -/
  input : Nat
  kind : PipKind
  /-- Index of the bel that the pip leads through. -/
  bel : Option Nat
  deriving DecidableEq, Repr

structure PipInfo where
  source : Nat
  target : Nat
  flags : Nat
  detail : Option PipDetail
  deriving DecidableEq, Repr

/-- The index of the bel that a pip leads through when it is used. -/
def PipInfo.crossedBel? (pip : PipInfo) : Option Nat :=
  match pip.detail with
  | some detail => if detail.kind = .bypass then detail.bel else none
  | none => none

/-- Bels whose input multiplexers are set together, and the ports concerned. -/
structure MuxGroup where
  bels : List Nat
  ports : List Name
  deriving DecidableEq, Repr

structure TileType where
  name : Name
  bels : Array BelInfo
  wires : Array WireInfo
  pips : Array PipInfo
  muxGroups : Array MuxGroup
  deriving Repr

structure TileDetail where
  name : String
  lobe : Option Nat
  deriving DecidableEq, Repr

structure Tile where
  type : Nat
  detail : Option TileDetail
  deriving DecidableEq, Repr

/-- The tile from which a bank takes its clock, and the tile of its clock generator. -/
structure BankClock where
  bank : Name
  sourceTile : Name
  generatorTile : Name
  deriving DecidableEq, Repr

structure Chip where
  name : String
  width : Nat
  height : Nat
  types : Array TileType
  tiles : Array Tile
  /-- Wires joined into one. The first of them stands for all. -/
  nodes : List (List WireId)
  bankClocks : List BankClock
  deriving Repr

namespace Chip

def tileType? (chip : Chip) (tile : Nat) : Option TileType :=
  chip.tiles[tile]?.bind fun tile => chip.types[tile.type]?

def belInfo? (chip : Chip) (bel : BelId) : Option BelInfo :=
  (chip.tileType? bel.tile).bind fun type => type.bels[bel.index]?

def wireInfo? (chip : Chip) (wire : WireId) : Option WireInfo :=
  (chip.tileType? wire.tile).bind fun type => type.wires[wire.index]?

def pipInfo? (chip : Chip) (pip : PipId) : Option PipInfo :=
  (chip.tileType? pip.tile).bind fun type => type.pips[pip.index]?

/-- Column and row of a tile, as signed numbers of 32 bits. -/
def tileXY (chip : Chip) (tile : Nat) : Int × Int :=
  (signed32 (tile % chip.width : Nat), signed32 (tile / chip.width : Nat))

/-- Everything of one resource, with its id, tile by tile. -/
def enumerate {α : Type} (chip : Chip) (resource : Resource) (part : TileType → Array α) :
    List (Id resource × α) :=
  (List.range chip.tiles.size).flatMap fun tile =>
    match chip.tileType? tile with
    | none => []
    | some type => (part type).toList.zipIdx.map fun (info, index) => (⟨tile, index⟩, info)

def belEntries (chip : Chip) : List (BelId × BelInfo) :=
  chip.enumerate .bel TileType.bels

def pipEntries (chip : Chip) : List (PipId × PipInfo) :=
  chip.enumerate .pip TileType.pips

def locationOf (chip : Chip) (bel : BelId) (info : BelInfo) : Loc :=
  let (x, y) := chip.tileXY bel.tile
  ⟨x, y, info.z⟩

end Chip

end UltraFabric
