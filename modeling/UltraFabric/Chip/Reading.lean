/-
# UltraFabric.Chip.Reading — chips from documents

The fields of a chip and of its parts, with the values they have when they are left out.
-/
import UltraFabric.Chip
import UltraFabric.Document.Reader

namespace UltraFabric

set_option autoImplicit false

open Reader

def PinDirection.choices : List (String × PinDirection) :=
  [("Inout", .inout), ("Input", .input), ("Output", .output)]

def PinDirection.read : Document → Reader PinDirection :=
  choice PinDirection.choices

def PipKind.choices : List (String × PipKind) :=
  [("Normal", .normal), ("Mux", .mux), ("Bypass", .bypass), ("Virtual", .virtual),
    ("Interconnect", .interconnect)]

def PipKind.read : Document → Reader PipKind :=
  choice PipKind.choices

/-- A tile and an index, as a bel, wire or pip is written in a file. -/
def Id.read {resource : Resource} : Document → Reader (Id resource) :=
  record ["tile", "index"] ⟨0, 0⟩ fun
    | "tile" => some fun document id => do return { id with tile := ← Reader.index document }
    | "index" => some fun document id => do return { id with index := ← Reader.index document }
    | _ => none

def Pin.read : Document → Reader Pin :=
  record ["name", "wire", "dir"] ⟨"", 0, .input⟩ fun
    | "name" => some fun document pin => do return { pin with name := ← Reader.name document }
    | "wire" => some fun document pin => do return { pin with wire := ← Reader.index document }
    | "dir" => some fun document pin => do
      return { pin with direction := ← PinDirection.read document }
    | _ => none

/-- A source that is not mentioned is allowed. -/
def ClockSources.read : Document → Reader ClockSources :=
  record [] ClockSources.any fun
    | "ring" => some fun document sources => do return { sources with ring := ← bool document }
    | "tube" => some fun document sources => do return { sources with tube := ← bool document }
    | "fabric" => some fun document sources => do return { sources with fabric := ← bool document }
    | _ => none

/-- The part of a bel that only some bels have. -/
def BelInfo.readDetail : Document → Reader (Option Nat × Option ClockSources) :=
  record [] (none, none) fun
    | "mux_group" => some fun document detail => do
      return (← optional Reader.index document, detail.2)
    | "gck_sources" => some fun document detail => do
      return (detail.1, ← optional ClockSources.read document)
    | _ => none

def BelInfo.read : Document → Reader BelInfo :=
  record ["name", "bel_type", "z"] ⟨"", "", 0, 0, [], none, none⟩ fun
    | "name" => some fun document bel => do return { bel with name := ← Reader.name document }
    | "bel_type" => some fun document bel => do return { bel with type := ← Reader.name document }
    | "z" => some fun document bel => do return { bel with z := ← coordinate document }
    | "flags" => some fun document bel => do return { bel with flags := ← Reader.index document }
    | "pins" => some fun document bel => do return { bel with pins := ← list Pin.read document }
    | "extra" => some fun document bel => do
      let (muxGroup, clockSources) := (← optional BelInfo.readDetail document).getD (none, none)
      return { bel with muxGroup, clockSources }
    | _ => none

def WireInfo.read : Document → Reader WireInfo :=
  record ["name"] ⟨"", "", 0⟩ fun
    | "name" => some fun document wire => do return { wire with name := ← Reader.name document }
    | "wire_type" => some fun document wire => do return { wire with type := ← Reader.name document }
    | "flags" => some fun document wire => do return { wire with flags := ← Reader.index document }
    | _ => none

def PipDetail.read : Document → Reader PipDetail :=
  record ["kind"] ⟨"", 0, .normal, none⟩ fun
    | "name" => some fun document pip => do return { pip with name := ← Reader.name document }
    | "input" => some fun document pip => do
      return { pip with input := ← natural 255 document }
    | "kind" => some fun document pip => do return { pip with kind := ← PipKind.read document }
    | "bel" => some fun document pip => do return { pip with bel := ← optional Reader.index document }
    | _ => none

def PipInfo.read : Document → Reader PipInfo :=
  record ["src_wire", "dst_wire"] ⟨0, 0, 0, none⟩ fun
    | "src_wire" => some fun document pip => do return { pip with source := ← Reader.index document }
    | "dst_wire" => some fun document pip => do return { pip with target := ← Reader.index document }
    | "flags" => some fun document pip => do return { pip with flags := ← Reader.index document }
    | "extra" => some fun document pip => do
      return { pip with detail := ← optional PipDetail.read document }
    | _ => none

def MuxGroup.read : Document → Reader MuxGroup :=
  record ["bels", "ports"] ⟨[], []⟩ fun
    | "bels" => some fun document group => do return { group with bels := ← list Reader.index document }
    | "ports" => some fun document group => do return { group with ports := ← list Reader.name document }
    | _ => none

def TileType.read : Document → Reader TileType :=
  record ["name"] ⟨"", #[], #[], #[], #[]⟩ fun
    | "name" => some fun document type => do return { type with name := ← Reader.name document }
    | "bels" => some fun document type => do
      return { type with bels := (← list BelInfo.read document).toArray }
    | "wires" => some fun document type => do
      return { type with wires := (← list WireInfo.read document).toArray }
    | "pips" => some fun document type => do
      return { type with pips := (← list PipInfo.read document).toArray }
    | "mux_groups" => some fun document type => do
      return { type with muxGroups := (← list MuxGroup.read document).toArray }
    | _ => none

def TileDetail.read : Document → Reader TileDetail :=
  record ["name"] ⟨"", none⟩ fun
    | "name" => some fun document tile => do return { tile with name := ← Reader.text document }
    | "lobe" => some fun document tile => do return { tile with lobe := ← optional Reader.index document }
    | _ => none

def Tile.read : Document → Reader Tile :=
  record ["type_idx"] ⟨0, none⟩ fun
    | "type_idx" => some fun document tile => do return { tile with type := ← Reader.index document }
    | "extra" => some fun document tile => do
      return { tile with detail := ← optional TileDetail.read document }
    | _ => none

def BankClock.read : Document → Reader BankClock :=
  record ["bank", "source_tile", "ckg_tile"] ⟨"", "", ""⟩ fun
    | "bank" => some fun document clock => do return { clock with bank := ← Reader.name document }
    | "source_tile" => some fun document clock => do
      return { clock with sourceTile := ← Reader.name document }
    | "ckg_tile" => some fun document clock => do
      return { clock with generatorTile := ← Reader.name document }
    | _ => none

/-- The part of a chip that is about its banks. -/
def Chip.readBankClocks : Document → Reader (List BankClock) :=
  record [] [] fun
    | "bank_ckg" => some fun document _ => list BankClock.read document
    | _ => none

def Chip.read : Document → Reader Chip :=
  record ["name", "width", "height", "tile_types", "tiles"] ⟨"", 0, 0, #[], #[], [], []⟩ fun
    | "name" => some fun document chip => do return { chip with name := ← Reader.text document }
    | "width" => some fun document chip => do return { chip with width := ← Reader.index document }
    | "height" => some fun document chip => do return { chip with height := ← Reader.index document }
    | "tile_types" => some fun document chip => do
      return { chip with types := (← list TileType.read document).toArray }
    | "tiles" => some fun document chip => do
      return { chip with tiles := (← list Tile.read document).toArray }
    | "nodes" => some fun document chip => do
      return { chip with nodes := ← list (list Id.read) document }
    | "extra" => some fun document chip => do
      return { chip with bankClocks := ← Chip.readBankClocks document }
    | _ => none

end UltraFabric
