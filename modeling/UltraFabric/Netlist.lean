/-
# UltraFabric.Netlist — cells and the nets that join them

A netlist is a set of cells, each with ports and parameters. Its nets follow from the ports: a net
exists when a port names it, an output drives it, and all other ports use it. `Netlist.ofCells`
builds the nets with their users in order of first mention of the cells and then of the ports, so
that the outcome depends on the lexicon and not on the order of the cells.
-/
import UltraFabric.Chip
import UltraFabric.Property

namespace UltraFabric

set_option autoImplicit false

structure Port where
  direction : PinDirection
  net : Option Name
  deriving DecidableEq, Repr

structure PortRef where
  cell : Name
  port : Name
  deriving DecidableEq, Repr

def PortRef.text (ref : PortRef) : String :=
  s!"{ref.cell}.{ref.port}"

structure Cell where
  name : Name
  type : Name
  ports : Std.ExtTreeMap Name Port
  params : Std.ExtTreeMap Name Property
  /-- The bel on which the cell is placed. -/
  bel : Option BelId
  /-- The bel on which the cell has to be placed. -/
  required : Option BelId
  cluster : Option Name
  /-- The cells that are placed together with this one. -/
  children : List Name
  /-- The place of this cell, seen from the cell of which it is a child. -/
  offset : Loc
  /-- Whether the height is meant in the tile and not from the parent. -/
  absoluteZ : Bool
  deriving DecidableEq

namespace Cell

/-- A cell without ports, parameters or place. -/
def bare (name type : Name) : Cell :=
  ⟨name, type, ∅, ∅, none, none, none, [], ⟨0, 0, 0⟩, false⟩

def portNet? (cell : Cell) (port : Name) : Option Name :=
  cell.ports[port]?.bind Port.net

def textParam (cell : Cell) (key default : String) : String :=
  match cell.params[key]? with
  | some value => value.asText
  | none => default

def intParam (cell : Cell) (key : String) (default : Int) : Int :=
  (cell.params[key]?.bind Property.asInt?).getD default

def boolParam (cell : Cell) (key : String) (default : Bool) : Bool :=
  (cell.params[key]?.bind Property.asBool?).getD default

def setParam (cell : Cell) (key : String) (value : Property) : Cell :=
  { cell with params := cell.params.insert key value }

end Cell

structure Net where
  name : Name
  driver : Option PortRef
  users : List PortRef
  /-- The wires of the net, each with the pip that drives it; the first one has none. -/
  wires : Std.ExtTreeMap WireId (Option PipId)
  deriving DecidableEq

/-- A net that nothing is connected to. -/
def Net.bare (name : Name) : Net :=
  ⟨name, none, [], ∅⟩

/-- Why a list of cells is no netlist. -/
inductive NetlistError where
  | duplicateCell (name : Name)
  | twoDrivers (net : Name) (first second : PortRef)
  deriving DecidableEq, Repr

def NetlistError.message : NetlistError → String
  | .duplicateCell name => s!"duplicate cell {name}"
  | .twoDrivers net first second =>
    s!"net {net} driven by both {first.text} and {second.text}"

structure Netlist where
  cells : Std.ExtTreeMap Name Cell
  nets : Std.ExtTreeMap Name Net
  deriving DecidableEq

namespace Netlist

def empty : Netlist := ⟨∅, ∅⟩

/-- Stores each cell under its name. -/
def collectCells : Std.ExtTreeMap Name Cell → List Cell →
    Except NetlistError (Std.ExtTreeMap Name Cell)
  | cells, [] => .ok cells
  | cells, cell :: rest =>
    if cell.name ∈ cells then .error (.duplicateCell cell.name)
    else collectCells (cells.insert cell.name cell) rest

/-- One end of a net. -/
structure Endpoint where
  net : Name
  direction : PinDirection
  ref : PortRef
  deriving DecidableEq, Repr

/-- The connected ports of a cell in order of first mention. -/
def cellEndpoints (lexicon : Lexicon) (cell : Cell) : List Endpoint :=
  (lexicon.sort cell.ports.keys).filterMap fun port =>
    cell.ports[port]?.bind fun info =>
      info.net.map fun net => ⟨net, info.direction, ⟨cell.name, port⟩⟩

/-- All connected ports, cells and ports in order of first mention. -/
def endpoints (lexicon : Lexicon) (cells : Std.ExtTreeMap Name Cell) : List Endpoint :=
  (lexicon.sort cells.keys).flatMap fun name =>
    match cells[name]? with
    | some cell => cellEndpoints lexicon cell
    | none => []

/-- Adds an end to a net; a second driver is refused. -/
def attach (net : Net) (endpoint : Endpoint) : Except NetlistError Net :=
  if endpoint.direction = .output then
    match net.driver with
    | some other => .error (.twoDrivers net.name other endpoint.ref)
    | none => .ok { net with driver := some endpoint.ref }
  else .ok { net with users := net.users ++ [endpoint.ref] }

/-- Adds ends one by one to the nets they name. -/
def attachAll : Std.ExtTreeMap Name Net → List Endpoint →
    Except NetlistError (Std.ExtTreeMap Name Net)
  | nets, [] => .ok nets
  | nets, endpoint :: rest =>
    match attach (nets.getD endpoint.net (Net.bare endpoint.net)) endpoint with
    | .error error => .error error
    | .ok net => attachAll (nets.insert endpoint.net net) rest

/-- The netlist of a list of cells. -/
def ofCells (lexicon : Lexicon) (cells : List Cell) : Except NetlistError Netlist :=
  match collectCells ∅ cells with
  | .error error => .error error
  | .ok cells =>
    match attachAll ∅ (endpoints lexicon cells) with
    | .error error => .error error
    | .ok nets => .ok ⟨cells, nets⟩

def cell? (netlist : Netlist) (name : Name) : Option Cell :=
  netlist.cells[name]?

def net? (netlist : Netlist) (name : Name) : Option Net :=
  netlist.nets[name]?

/-- All cells, by name. -/
def cellList (netlist : Netlist) : List Cell :=
  netlist.cells.values

/-- All nets, by name. -/
def netList (netlist : Netlist) : List Net :=
  netlist.nets.values

/-- Stores a cell under its name. -/
def setCell (netlist : Netlist) (cell : Cell) : Netlist :=
  { netlist with cells := netlist.cells.insert cell.name cell }

def setNet (netlist : Netlist) (net : Net) : Netlist :=
  { netlist with nets := netlist.nets.insert net.name net }

/-- Adds a bare cell, unless there is one of that name. -/
def addCell (netlist : Netlist) (name type : Name) : Netlist :=
  if name ∈ netlist.cells then netlist else netlist.setCell (Cell.bare name type)

/-- Connects a port of an existing cell to a net. A new driver takes the place of an old one. -/
def connect (netlist : Netlist) (ref : PortRef) (direction : PinDirection) (net : Name) :
    Netlist :=
  match netlist.cell? ref.cell with
  | none => netlist
  | some cell =>
    let joined := (netlist.net? net).getD (Net.bare net)
    let joined :=
      if direction = .output then { joined with driver := some ref }
      else { joined with users := joined.users ++ [ref] }
    (netlist.setCell { cell with ports := cell.ports.insert ref.port ⟨direction, some net⟩ }).setNet
      joined

end Netlist

end UltraFabric
