/-
# UltraFabric.Layout — a design on a device

A layout is a device, a netlist, and what of the device the netlist occupies: cells on bels, nets on
wires and pips. Each binding is kept twice, with the cell or net and with the resource, so that both
sides can be asked; the operations change both sides together.

An operation that may be refused asks everything before it writes anything. So it gives the new layout
or nothing, and when it gives nothing the layout is still the one that it was asked of.
-/
import UltraFabric.Device
import UltraFabric.Netlist

namespace UltraFabric

set_option autoImplicit false

/-- Why the places named in a netlist cannot be used. -/
inductive PlacementError where
  | missingBel (cell : Name) (bel : BelId)
  | sharedBel (first second : Name) (bel : BelId)
  deriving DecidableEq, Repr

def PlacementError.message : PlacementError → String
  | .missingBel cell bel => s!"cell {cell} refers to missing bel {bel.tile}/{bel.index}"
  | .sharedBel first second bel =>
    s!"cells {first} and {second} are both placed at {bel.tile}/{bel.index}"

structure Layout where
  device : Device
  netlist : Netlist
  cellOn : Std.ExtTreeMap BelId Name
  netOnWire : Std.ExtTreeMap WireId Name
  netOnPip : Std.ExtTreeMap PipId Name

namespace Layout

/-- Occupies the bels that the cells name, one cell after the other. -/
def place (device : Device) : Std.ExtTreeMap BelId Name → List Cell →
    Except PlacementError (Std.ExtTreeMap BelId Name)
  | cellOn, [] => .ok cellOn
  | cellOn, cell :: rest =>
    match (cell.bel.toList ++ cell.required.toList).find? fun bel => ! device.isBel bel with
    | some bel => .error (.missingBel cell.name bel)
    | none =>
      match cell.bel with
      | none => place device cellOn rest
      | some bel =>
        match cellOn[bel]? with
        | some other => .error (.sharedBel other cell.name bel)
        | none => place device (cellOn.insert bel cell.name) rest

/-- The layout in which every cell is where the netlist places it, and nothing is routed. -/
def ofNetlist (device : Device) (netlist : Netlist) : Except PlacementError Layout :=
  match place device ∅ netlist.cellList with
  | .error error => .error error
  | .ok cellOn => .ok ⟨device, netlist, cellOn, ∅, ∅⟩

def cell? (layout : Layout) (name : Name) : Option Cell :=
  layout.netlist.cell? name

def net? (layout : Layout) (name : Name) : Option Net :=
  layout.netlist.net? name

/-! ### Bels -/

/-- The cell on a bel. -/
def boundCell? (layout : Layout) (bel : BelId) : Option Cell :=
  layout.cellOn[bel]?.bind layout.cell?

def isFree (layout : Layout) (bel : BelId) : Bool :=
  ! layout.cellOn.contains bel

/-- The occupied bels in order, with their cells. -/
def boundBels (layout : Layout) : List (BelId × Name) :=
  layout.cellOn.toList

/-- The bel of a placed cell. -/
def belOf? (layout : Layout) (name : Name) : Option BelId :=
  (layout.cell? name).bind Cell.bel

/-- Puts a cell on a free bel, taking it off the bel it was on; refused, and then the layout stays as it
is, if the bel is not free or there is no such cell. -/
def bindBel? (layout : Layout) (bel : BelId) (name : Name) : Option Layout :=
  if layout.device.isBel bel && layout.isFree bel then
    (layout.cell? name).map fun cell =>
      let vacated :=
        match cell.bel with
        | some old => layout.cellOn.erase old
        | none => layout.cellOn
      { layout with
        netlist := { layout.netlist with
          cells := layout.netlist.cells.insert name { cell with bel := some bel } }
        cellOn := vacated.insert bel name }
  else none

/-- Takes the cell off a bel. -/
def unbindBel? (layout : Layout) (bel : BelId) : Option (Name × Layout) :=
  layout.cellOn[bel]?.map fun name =>
    let cells :=
      match layout.cell? name with
      | some cell => layout.netlist.cells.insert name { cell with bel := none }
      | none => layout.netlist.cells
    (name, { layout with
      netlist := { layout.netlist with cells }
      cellOn := layout.cellOn.erase bel })

/-! ### Wires and pips -/

def wireNet? (layout : Layout) (wire : WireId) : Option Name :=
  layout.netOnWire[wire]?

def pipNet? (layout : Layout) (pip : PipId) : Option Name :=
  layout.netOnPip[pip]?

/-- The layout after a net takes a wire, driven by a pip or as its source. -/
def addWire (layout : Layout) (net : Net) (name : Name) (wire : WireId) (pip : Option PipId) :
    Layout :=
  { layout with
    netlist := { layout.netlist with
      nets := layout.netlist.nets.insert name { net with wires := net.wires.insert wire pip } }
    netOnWire := layout.netOnWire.insert wire name }

/-- Gives a wire to a net as its source; refused, and then the layout stays as it is, if the wire belongs
to another net or there is no such net. -/
def bindWire? (layout : Layout) (wire : WireId) (name : Name) : Option Layout :=
  match layout.wireNet? wire with
  | some other => if other = name then some layout else none
  | none => (layout.net? name).map fun net => layout.addWire net name wire none

/-- Gives a pip and the wire it drives to a net; refused, and then the layout stays as it is, if one of
them is in use or there is no such net. -/
def bindArc? (layout : Layout) (arc : Arc) (name : Name) : Option Layout :=
  if layout.netOnPip.contains arc.pip || layout.netOnWire.contains arc.target then none
  else
    (layout.net? name).map fun net =>
      { layout.addWire net name arc.target (some arc.pip) with
        netOnPip := layout.netOnPip.insert arc.pip name }

/-- `bindArc?` by the id of the pip. -/
def bindPip? (layout : Layout) (pip : PipId) (name : Name) : Answer (Option Layout) :=
  match layout.device.arc? pip with
  | none => .error .outOfRange
  | some arc => .ok (layout.bindArc? arc name)

/-- Takes a wire, and the pip that drives it, from its net. -/
def unbindWire (layout : Layout) (wire : WireId) : Layout :=
  match layout.wireNet? wire with
  | none => layout
  | some name =>
    let freed := { layout with netOnWire := layout.netOnWire.erase wire }
    match layout.net? name with
    | none => freed
    | some net =>
      { freed with
        netlist := { layout.netlist with
          nets := layout.netlist.nets.insert name { net with wires := net.wires.erase wire } }
        netOnPip :=
          match net.wires[wire]? with
          | some (some pip) => layout.netOnPip.erase pip
          | _ => layout.netOnPip }

end Layout

end UltraFabric
