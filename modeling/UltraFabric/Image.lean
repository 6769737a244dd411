/-
# UltraFabric.Image — the configuration image of a plan

The image lists the connections of every routed net, one instance for everything that has to be
configured, and the voltages of the banks. Everything in it is sorted by name. Instances are stored
under their names, so of two with one name the later one stays; placed cells come first, then the
switches of interconnections, then the generators and loops that clock paths lead through.

How an image is put together is written once for any `Image.Reader`, which looks up names and pips;
`Plan.image` is what the reader of a plan makes (`Plan.reader`).
-/
import Std.Data.ExtTreeSet
import UltraFabric.Image.Naming
import UltraFabric.Image.Settings
import UltraFabric.Notice
import UltraFabric.Plan

namespace UltraFabric

set_option autoImplicit false

/-- Something that is configured. -/
structure Instance where
  location : String
  type : String
  config : Std.ExtTreeMap String Document

structure Image where
  nets : Std.ExtTreeMap String (Std.ExtTreeSet String)
  instances : Std.ExtTreeMap String Instance
  banks : Std.ExtTreeMap String String

/-- A placed cell of a type that cannot be configured. -/
structure UnknownCellType where
  cell : Name
  type : Name
  deriving DecidableEq, Repr

def UnknownCellType.message (unknown : UnknownCellType) : String :=
  s!"unhandled cell {unknown.cell} of type {unknown.type}"

namespace Image

/-- An image without nets and instances. -/
def ofBanks (banks : Std.ExtTreeMap String String) : Image := ⟨∅, ∅, banks⟩

/-- Adds an instance under the plain form of a name. -/
def add (image : Image) (name : String) (instanceOf : Instance) : Image :=
  { image with instances := image.instances.insert (plainName name) instanceOf }

/-! ### Connections -/

/-- One end of a connection. -/
structure WireEnd where
  tile : String
  name : String
  type : Name
  deriving DecidableEq, Repr

/-- Wires whose connections are implied by the configuration of a cell. -/
def isImplied (type : Name) : Bool :=
  Primitive.wireTypes.contains type ||
    (Text.startsWith "CROSSBAR_" type && Text.endsWith "INPUT_WIRE" type)

/-- The name by which the end of a connection is known: the input of a multiplexer is known by the
multiplexer. -/
def targetName (wire : WireEnd) : String :=
  if wire.type = "MUX_WIRE" then
    match Text.splitAtLast? '.' wire.name.toList with
    | some (start, _) => String.ofList start
    | none => wire.name
  else wire.name

/-- Whether the pip itself appears in the image; pips that are part of a cell do not. -/
def isShown (info : PipInfo) : Bool :=
  match info.detail with
  | some detail =>
    detail.name.isEmpty ||
      ! (detail.kind = .bypass || detail.kind = .virtual || detail.kind = .mux)
  | none => true

/-- How an image gets at what it is made of; what cannot be looked up is a fault. -/
structure Reader where
  /-- The name of a wire as it is known in a tile. -/
  wireName : String → String → Answer String
  belName : BelId → Answer String
  pip? : PipId → Answer (Option PipInfo)
  /-- The instances of a placed cell. -/
  instances : Cell → BelId → Answer (Except UnknownCellType (List (String × Instance)))

end Image

namespace Plan

def tileName (plan : Plan) (tile : Nat) : String :=
  plan.fabric.tables.tiles.name tile

/-- A wire as the end of a connection in some tile. -/
def wireEnd (plan : Plan) (tile : Nat) (wire : WireId) : Answer Image.WireEnd :=
  match plan.device.wire? wire with
  | some info => .ok ⟨plan.tileName tile, info.name, info.type⟩
  | none => .error .outOfRange

def belName (plan : Plan) (bel : BelId) : String :=
  ((plan.device.bel? bel).map BelInfo.name).getD ""

/-- The location of a bel in the image, with the functional element in its name replaced. -/
def imageLocation (plan : Plan) (bel : BelId) (element : Option String) : String :=
  let belName :=
    match element with
    | some element => Text.replaceAll ".FE" element (plan.belName bel)
    | none => plan.belName bel
  plan.tileName bel.tile ++ ":" ++ belName

/-- A functional element gives an instance for its lookup table and one for its flip-flop, as far as
they are used. -/
def elementInstances (plan : Plan) (cell : Cell) (bel : BelId) : List (String × Instance) :=
  let table : List (String × Instance) :=
    if cell.boolParam "lut_used" false then
      [(cell.name, ⟨plan.imageLocation bel (some ".LUT"), "LUT",
        Image.values cell Image.lookupTable⟩)]
    else []
  let register : List (String × Instance) :=
    if cell.boolParam "dff_used" false then
      let type := cell.textParam "type" "DFF"
      let settings := if type = "DFF" then Image.flipFlop else []
      [(cell.name ++ "_D", ⟨plan.imageLocation bel (some ".DFF"), type,
        Image.values cell settings⟩)]
    else []
  table ++ register

/-- A pad goes by the name of its parameter, if it has one. -/
def padInstance (plan : Plan) (cell : Cell) (bel : BelId) : String × Instance :=
  let given := cell.textParam "iobname" ""
  (if given.isEmpty then cell.name else given,
    ⟨plan.imageLocation bel none, cell.type, Image.values cell Image.pad⟩)

/-- The instances of a placed cell. -/
def cellInstances (plan : Plan) (cell : Cell) (bel : BelId) :
    Except UnknownCellType (List (String × Instance)) :=
  if cell.type = "BEYOND_FE" then .ok (plan.elementInstances cell bel)
  else if Primitive.isPad cell.type then .ok [plan.padInstance cell bel]
  else
    match Image.settingsOf? cell.type with
    | some settings =>
      .ok [(cell.name, ⟨plan.imageLocation bel none, cell.type, Image.values cell settings⟩)]
    | none => .error ⟨cell.name, cell.type⟩

/-- The voltage of a bank that nobody configured. -/
def defaultVoltage (bank : String) : String :=
  if ["IOB0", "IOB1", "IOB6", "IOB7"].contains bank then "3.3V" else "1.8V"

/-- The banks after a pad is placed in one of them. -/
def banksWith (plan : Plan) (cell : Cell) (bel : BelId) (banks : Std.ExtTreeMap String String) :
    Std.ExtTreeMap String String :=
  if Primitive.isPad cell.type then
    let bank := plan.fabric.tables.tiles.bank bel.tile
    banks.insertIfNew bank (defaultVoltage bank)
  else banks

/-- The type of the switch at a wire that leads into an interconnection. -/
def switchType (wire : String) : String :=
  if Text.startsWith "SO1." wire then "OTS"
  else if Text.startsWith "SI1." wire then "ITS"
  else if Text.contains "UI1x" wire then "ITC"
  else "OTC"

/-- Whether a pip is a switch of an interconnection. -/
def isSwitch (info : PipInfo) : Bool :=
  match info.detail with
  | some detail => ! detail.name.isEmpty && detail.kind = .interconnect
  | none => false

end Plan

namespace Image.Reader

variable (read : Reader) (plan : Plan)

/-! ### Connections -/

/-- The text of a connection, unless it is implied. -/
def connection? (source target : WireEnd) : Answer (Option String) :=
  if isImplied source.type then return none
  else do
    let start ← read.wireName source.tile source.name
    let ending ← read.wireName target.tile (targetName target)
    return some (source.tile ++ ":" ++ start ++ "->" ++ target.tile ++ ":" ++ ending)

/-- A connection that may be left out. -/
def connectionIf? (shown : Prop) [Decidable shown] (source target : WireEnd) :
    Answer (Option String) :=
  if shown then read.connection? source target else return none

/-- The connections that a pip stands for: from the node into the tile, when the wire has another
name there, and through the pip. -/
def pipConnections (pip : PipId) : Answer (List String) := do
  let arc ← Fault.outOfRange.unless (plan.device.arc? pip)
  let origin : WireId := ⟨pip.tile, arc.info.source⟩
  let node ← plan.wireEnd arc.source.tile arc.source
  let inner ← plan.wireEnd pip.tile origin
  let target ← plan.wireEnd pip.tile arc.target
  let entry ←
    read.connectionIf? (inner.name ≠ node.name ∨ arc.source.tile ≠ origin.tile) node inner
  let through ← read.connectionIf? (isShown arc.info) inner target
  return entry.toList ++ through.toList

/-- The connection to the pin of a user, if it is placed. -/
def pinConnection? (source : WireEnd) (user : PortRef) : Answer (Option String) :=
  match plan.layout.belOf? user.cell with
  | none => return none
  | some bel => do
    let belName ← read.belName bel
    read.connection? source ⟨plan.tileName bel.tile, s!"{belName}.{user.port}", source.type⟩

/-- The connections of a net whose only wire joins the pins of its users. -/
def directConnections (net : Net) (wire : WireId) : Answer (List String) := do
  let source ← plan.wireEnd wire.tile wire
  let connections ← net.users.mapM (read.pinConnection? plan source)
  return connections.reduceOption

def wireConnections (net : Net) : WireId × Option PipId → Answer (List String)
  | (_, some pip) => read.pipConnections plan pip
  | (wire, none) => if net.wires.size = 1 then read.directConnections plan net wire else return []

def netConnections (net : Net) : Answer (Std.ExtTreeSet String) := do
  let connections ← net.wires.toList.mapM (read.wireConnections plan net)
  return Std.ExtTreeSet.ofList connections.flatten

/-- The connections of all nets that have wires. -/
def nets : Answer (Std.ExtTreeMap String (Std.ExtTreeSet String)) :=
  (plan.layout.netlist.netList.filter fun net => ! net.wires.isEmpty).foldlM (fun nets net => do
    return nets.insert (plainName net.name) (← read.netConnections plan net)) ∅

/-! ### Instances -/

/-- Adds the instances of cells in order; cells without a place are only noted. -/
def addCells : List Cell → Image → List Notice → List Notice × Answer (Except UnknownCellType Image)
  | [], image, notices => (notices, .ok (.ok image))
  | cell :: rest, image, notices =>
    match cell.bel with
    | none => addCells rest image (notices ++ [.cellNotPlaced cell.name])
    | some bel =>
      match read.instances cell bel with
      | .error fault => (notices, .error fault)
      | .ok (.error unknown) => (notices, .ok (.error unknown))
      | .ok (.ok instances) =>
        let image := instances.foldl (fun image (name, entry) => image.add name entry) image
        addCells rest { image with banks := plan.banksWith cell bel image.banks } notices

/-- The switch of a pip of a net: its name without the number of the input, and its instance. -/
def switchInstance (net : Name) (pip : PipId) (info : PipInfo) : Answer (String × Instance) := do
  let tile := plan.tileName pip.tile
  let wire ← plan.wireEnd pip.tile ⟨pip.tile, info.source⟩
  let name := (← read.wireName tile wire.name).toList
  let site ← Fault.splitCharacter.unless (Text.takeBytes (Text.byteCount name - 2) name)
  let ending := (Text.dropBytes 4 site).getD []
  return (net ++ "_" ++ String.ofList ending,
    ⟨tile ++ ":" ++ String.ofList site, Plan.switchType wire.name, ∅⟩)

/-- Adds the switch of a pip, if it is one. -/
def addSwitch (net : Name) (image : Image) (pip : PipId) : Answer Image := do
  match ← read.pip? pip with
  | none => return image
  | some info =>
    if Plan.isSwitch info then
      let (name, entry) ← read.switchInstance plan net pip info
      return image.add name entry
    else return image

/-- Adds the switches of all nets, those of a net in the order of its pips. -/
def addSwitches (image : Image) : Answer Image :=
  plan.layout.netlist.netList.foldlM (fun image net =>
    (net.wires.values.filterMap id).mergeSort (fun a b => (compare a b).isLE) |>.foldlM
      (read.addSwitch plan net.name) image) image

/-- Adds reserved bels of one type, which nothing uses. -/
def addBels (type : String) (config : Std.ExtTreeMap String Document) (bels : List (BelId × Name))
    (image : Image) : Answer Image :=
  bels.foldlM (fun image (bel, name) => do
    let belName ← read.belName bel
    return image.add name ⟨plan.tileName bel.tile ++ ":" ++ belName, type, config⟩) image

/-- Adds the generators and loops that clock paths lead through. -/
def addReserved (image : Image) : Answer Image := do
  let image ← read.addBels plan "WFG" unusedGenerator plan.fabric.reserved.generators.toList image
  read.addBels plan "PLL" unusedLoop plan.fabric.reserved.loops.toList image

/-- The image of a plan, and what there is to say about it. -/
def image : List Notice × Answer (Except UnknownCellType Image) :=
  match read.nets plan with
  | .error fault => ([], .error fault)
  | .ok nets =>
    let (notices, cells) := read.addCells plan plan.layout.netlist.cellList
      (ofBanks plan.fabric.bankVoltage) []
    match cells with
    | .error fault => (notices, .error fault)
    | .ok (.error unknown) => (notices, .ok (.error unknown))
    | .ok (.ok image) =>
      match (read.addSwitches plan image).bind (read.addReserved plan) with
      | .error fault => (notices, .error fault)
      | .ok image => (notices, .ok (.ok { image with nets }))

end Image.Reader

/-! ### The image of a plan -/

namespace Plan

/-- What a plan has no name for is left blank. -/
def reader (plan : Plan) : Image.Reader where
  wireName tile name := return Image.wireName tile name
  belName bel := return plan.belName bel
  pip? pip := return plan.device.pip? pip
  instances cell bel := return plan.cellInstances cell bel

def netConnections (plan : Plan) (net : Net) : Answer (Std.ExtTreeSet String) :=
  plan.reader.netConnections plan net

def switchInstance (plan : Plan) (net : Name) (pip : PipId) (info : PipInfo) :
    Answer (String × Instance) :=
  plan.reader.switchInstance plan net pip info

def image (plan : Plan) : List Notice × Answer (Except UnknownCellType Image) :=
  plan.reader.image plan

end Plan

namespace Image

def instanceDocument (entry : Instance) : Document :=
  .ofFields ([("location", .text entry.location), ("type", .text entry.type)] ++
    if entry.config.isEmpty then [] else [("config", .ofFields entry.config.toList)])

/-- The image as it is stored. -/
def toDocument (image : Image) : Document :=
  .ofFields [
    ("nets", .ofFields (image.nets.toList.map fun (net, connections) =>
      (net, .list (connections.toList.map .text)))),
    ("instances", .ofFields (image.instances.toList.map fun (name, entry) =>
      (name, instanceDocument entry))),
    ("setup", .ofFields [
      ("variant", .text "NG-ULTRA"),
      ("iobanks", .ofFields (image.banks.toList.map fun (bank, voltage) =>
        (bank, .text voltage)))])]

end Image

end UltraFabric
