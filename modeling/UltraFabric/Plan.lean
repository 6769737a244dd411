/-
# UltraFabric.Plan — a design in the making

A plan is a layout together with what the architecture knows and remembers about it: tables that
follow from the device, the configured voltages of the banks, what is reserved for clock paths, and
counts of the clock nets and voltages in use. The lexicon numbers the names of the design.
-/
import Std.Data.ExtTreeSet
import UltraFabric.Cascade
import UltraFabric.Clock.Lobe
import UltraFabric.Layout
import UltraFabric.Options
import UltraFabric.Tally
import UltraFabric.Voltage

namespace UltraFabric

set_option autoImplicit false

/-- What follows from the device alone. -/
structure Tables where
  tiles : TileNames
  /-- For each bank, the tile its clock comes from and the tile of its generator. -/
  bankClocks : Std.ExtTreeMap Name (Name × Name)
  buffers : Std.ExtTreeMap Nat (List ClockBuffer)
  cascade : Std.ExtTreeMap BelId BelId
  /-- The pads by bank and name. -/
  pads : Std.ExtTreeMap String BelId
  banks : Std.ExtTreeSet String
  /-- For pads that feed the clock ring directly, the pin that does so. -/
  ringPins : Std.ExtTreeMap BelId Name

def Tables.empty : Tables := ⟨.empty, ∅, ∅, ∅, ∅, ∅, ∅⟩

/-- What clock paths have taken before general routing. -/
structure Reservations where
  /-- Pips that nobody else may use. -/
  blocked : Std.ExtTreeSet PipId
  /-- Wires given to clock nets, in that order. -/
  wires : List WireId
  /-- Waveform generators that a path leads through, under the names they get. -/
  generators : Std.ExtTreeMap BelId Name
  /-- Phase-locked loops that a path leads through, under the names they get. -/
  loops : Std.ExtTreeMap BelId Name
  deriving DecidableEq

def Reservations.none : Reservations := ⟨∅, [], ∅, ∅⟩

/-- What the placed cells use. -/
structure Occupancy where
  /-- For each lobe, the ports on each clock net that needs a buffer. -/
  clocks : Tally Nat Name
  /-- For each bank, the pads with each voltage. -/
  voltages : Tally String String

def Occupancy.empty : Occupancy := ⟨.empty, .empty⟩

/-- What the architecture knows and remembers. -/
structure Fabric where
  options : Options
  clocks : ClockTables
  tables : Tables
  bankVoltage : Std.ExtTreeMap String String
  reserved : Reservations
  occupancy : Occupancy

/-- An architecture before it has seen a device. -/
def Fabric.ofOptions (options : Options) (clocks : ClockTables) : Fabric :=
  ⟨options, clocks, .empty, ∅, .none, .empty⟩

structure Plan where
  lexicon : Lexicon
  fabric : Fabric
  layout : Layout

namespace Plan

def device (plan : Plan) : Device :=
  plan.layout.device

def mention (plan : Plan) (name : Name) : Plan :=
  { plan with lexicon := plan.lexicon.mention name }

def cell? (plan : Plan) (name : Name) : Option Cell :=
  plan.layout.cell? name

def net? (plan : Plan) (name : Name) : Option Net :=
  plan.layout.net? name

/-! ### Clocks -/

def sinkTier? (plan : Plan) (ref : PortRef) : Option SinkTier :=
  (plan.cell? ref.cell).bind fun cell => plan.fabric.clocks.sinkTier? cell.type ref.port

def sourceTier? (plan : Plan) (ref : PortRef) : Option SourceTier :=
  (plan.cell? ref.cell).bind fun cell => plan.fabric.clocks.sourceTier? cell.type ref.port

/-- Whether a port is only reached over the dedicated clock network. -/
def isLowSkewSink (plan : Plan) (ref : PortRef) : Bool :=
  match plan.sinkTier? ref with
  | some .ring | some .ringOverTile | some .tube => true
  | _ => false

/-- Whether a port is the pin by which a pad feeds the clock ring, if cells have certain places. -/
def isRingPad (plan : Plan) (place : Name → Option BelId) (ref : PortRef) : Bool :=
  ((place ref.cell).bind fun bel => plan.fabric.tables.ringPins[bel]?) = some ref.port

/-- Where the clock of a driver comes from, if cells have certain places. -/
def tierAt (plan : Plan) (place : Name → Option BelId) (driver : PortRef) : DriverTier :=
  match plan.sourceTier? driver with
  | some .ring => .ring
  | some .tube => .tube
  | none => if plan.isRingPad place driver then .ring else .fabric

/-- Where the clock of a driver comes from. -/
def driverTier (plan : Plan) (driver : PortRef) : DriverTier :=
  plan.tierAt plan.layout.belOf? driver

/-- The clock nets of a cell that need a buffer of its lobe, once for every port. -/
def bufferedNets (plan : Plan) (cell : Cell) : List Name :=
  cell.ports.toList.filterMap fun (port, info) =>
    match plan.fabric.clocks.sinkTier? cell.type port with
    | some .fabric | some .ring => info.net
    | _ => none

/-- What a clock net asks of the buffers of a lobe, if cells have certain places. -/
def requestAt (plan : Plan) (place : Name → Option BelId) (net : Name) : ClockRequest :=
  match (plan.net? net).bind Net.driver with
  | none => ⟨net, .fabric, none⟩
  | some driver =>
    ⟨net, plan.tierAt place driver, (place driver.cell).bind plan.device.location?⟩

/-- What a clock net asks of the buffers of a lobe. -/
def clockRequest (plan : Plan) (net : Name) : ClockRequest :=
  plan.requestAt plan.layout.belOf? net

end Plan

end UltraFabric
