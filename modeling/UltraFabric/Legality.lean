/-
# UltraFabric.Legality — may a cell stand on a bel?

Four things are asked of a cell on a bel, in this order: the voltage of the bank, the settings of
multiplexers that are shared with neighbours, the dedicated links between multipliers, and the clock
buffers of the lobe. `Plan.violation?` gives the first that is not met.

The questions are asked for a list of moves that are planned but not made. A `View` shows where
cells would be after the moves; only the counts of voltages and clock nets do not know of them.
-/
import UltraFabric.Legality.Multiplexer
import UltraFabric.Legality.Violation
import UltraFabric.Plan.Binding

namespace UltraFabric

set_option autoImplicit false

/-- Cells with the bels they are to stand on. -/
abbrev Placement := List (Name × BelId)

/-- A layout in which some cells are seen on other bels. -/
structure View where
  layout : Layout
  moves : Placement

namespace View

/-- Where a cell is after the moves. -/
def belOf? (view : View) (name : Name) : Option BelId :=
  match view.moves.find? (·.1 = name) with
  | some (_, bel) => some bel
  | none => view.layout.belOf? name

/-- Which cell is on a bel after the moves. -/
def cellOn? (view : View) (bel : BelId) : Option Cell :=
  match view.moves.find? (·.2 = bel) with
  | some (name, _) => view.layout.cell? name
  | none =>
    match view.layout.boundCell? bel with
    | some cell => if view.moves.any (·.1 = cell.name) then none else some cell
    | none => none

end View

namespace Plan

/-! ### Voltage of the bank -/

/-- The voltage of a bank, as far as a cell with `voltage` is concerned: the configured one, or one
of another pad that differs. -/
def bankVoltage? (plan : Plan) (bank voltage : String) : Option String :=
  match plan.fabric.bankVoltage[bank]? with
  | some configured => some configured
  | none => (plan.fabric.occupancy.voltages.members bank).find? (· ≠ voltage)

def voltageViolation? (plan : Plan) (cell : Cell) (bel : BelId) : Option Violation :=
  match imposedVoltage? cell with
  | none => none
  | some voltage =>
    let bank := plan.fabric.tables.tiles.bank bel.tile
    match plan.bankVoltage? bank voltage with
    | none => none
    | some other => if other = voltage then none else some (.bankVoltage bank voltage other)

/-! ### Shared multiplexers -/

/-- Another cell of the group that connects a shared port to another net. -/
def groupConflict? (view : View) (cell : Cell) (bel : BelId) (port net : Name) (index : Nat) :
    Option Violation :=
  let otherBel : BelId := ⟨bel.tile, index⟩
  if otherBel = bel then none
  else
    match view.cellOn? otherBel with
    | none => none
    | some other =>
      if other.name = cell.name then none
      else
        match other.portNet? port with
        | none => none
        | some otherNet => if otherNet = net then none else some (.muxGroup port other.name otherNet)

def groupViolation? (view : View) (cell : Cell) (bel : BelId) : Option Violation :=
  match view.layout.device.muxGroup? bel with
  | none => none
  | some group =>
    group.ports.findSome? fun port =>
      match cell.portNet? port with
      | none => none
      | some net => group.bels.findSome? (groupConflict? view cell bel port net)

/-- The parameter by which a cell asks for a setting of the multiplexer at one of its ports. -/
def settingKey (port : Name) : String :=
  s!"{port}_mux"

/-- The setting that a cell asks for at a port. -/
def wantedSetting? (cell : Cell) (port : Name) : Option Int :=
  cell.params[settingKey port]?.bind Property.asInt?

/-- Another setting than the one that is asked for. -/
def mismatch? (port : Name) (wanted : Int) (decoded : Nat) : Option Violation :=
  if (decoded : Int) = wanted then none else some (.muxSetting port decoded wanted)

/-- A port that is fed through another input of its multiplexer than the cell asks for. -/
def portViolation? (layout : Layout) (cell : Cell) (bel : BelId) (port : Name) :
    Option Violation :=
  match wantedSetting? cell port, layout.portSetting? bel port with
  | some wanted, some decoded => mismatch? port wanted decoded
  | _, _ => none

def settingViolation? (layout : Layout) (cell : Cell) (bel : BelId) : Option Violation :=
  cell.ports.keys.findSome? (portViolation? layout cell bel)

/-! ### Links between multipliers -/

def isMultiplier (layout : Layout) (name : Name) : Bool :=
  match layout.cell? name with
  | some cell => cell.type = "DSP"
  | none => false

/-- A cascade input needs the link from the multiplier that drives it. -/
def cascadeInputViolation? (plan : Plan) (view : View) (cell : Cell) (bel : BelId) (port : Name)
    (net : Net) : Option Violation :=
  match net.driver with
  | none => none
  | some driver =>
    if driver.cell = cell.name || ! isMultiplier view.layout driver.cell then none
    else
      match view.belOf? driver.cell with
      | none => none
      | some driverBel =>
        if plan.fabric.tables.cascade[driverBel]? = some bel then none
        else some (.cascade port driver.cell)

/-- A cascade output needs the link to each multiplier that uses it. -/
def cascadeOutputViolation? (plan : Plan) (view : View) (cell : Cell) (bel : BelId) (port : Name)
    (net : Net) : Option Violation :=
  net.users.findSome? fun user =>
    if user.cell = cell.name || ! isMultiplier view.layout user.cell then none
    else
      match view.belOf? user.cell with
      | none => none
      | some userBel =>
        if plan.fabric.tables.cascade[bel]? = some userBel then none
        else some (.cascade port user.cell)

def cascadeViolation? (plan : Plan) (view : View) (cell : Cell) (bel : BelId) : Option Violation :=
  cell.ports.toList.findSome? fun (port, info) =>
    match info.net.bind view.layout.net? with
    | none => none
    | some net =>
      if Primitive.isCascadeInput port then plan.cascadeInputViolation? view cell bel port net
      else if Primitive.isCascadeOutput port then plan.cascadeOutputViolation? view cell bel port net
      else none

/-! ### Clock buffers of the lobe -/

/-- The clock nets of cells that move into a lobe. -/
def movedNets (plan : Plan) (moves : Placement) (lobe : Nat) : List Name :=
  moves.flatMap fun (name, bel) =>
    if plan.fabric.tables.tiles.lobe? bel.tile = some lobe then
      match plan.cell? name with
      | some cell => plan.bufferedNets cell
      | none => []
    else []

/-- The clock nets that need a buffer of a lobe, in order of first mention. -/
def lobeNets (plan : Plan) (moves : Placement) (cell : Cell) (lobe : Nat) : List Name :=
  let nets := plan.bufferedNets cell ++ plan.fabric.occupancy.clocks.members lobe ++
    plan.movedNets moves lobe
  plan.lexicon.sort (Std.ExtTreeSet.ofList nets).toList

/-- What is said of a bel when some nets need buffers of its lobe; `ask` tells what they ask for. -/
def capacityVerdict (plan : Plan) (bel : BelId) (nets : Nat → List Name)
    (ask : List Name → Answer (List ClockRequest)) : Answer (Option Violation) :=
  match plan.fabric.tables.tiles.lobe? bel.tile with
  | none => .ok none
  | some lobe =>
    match plan.fabric.tables.buffers[lobe]? with
    | none => .ok none
    | some buffers =>
      let exceeded := Violation.clockCapacity lobe (nets lobe).length buffers.length
      if buffers.length < (nets lobe).length then .ok (some exceeded)
      else
        match ask (nets lobe) with
        | .error fault => .error fault
        | .ok requests =>
          match ClockBuffer.assign plan.device plan.fabric.options.bufferChoice buffers requests with
          | .error fault => .error fault
          | .ok (some _) => .ok none
          | .ok none => .ok (some exceeded)

def clockViolation? (plan : Plan) (moves : Placement) (cell : Cell) (bel : BelId) :
    Answer (Option Violation) :=
  if (plan.bufferedNets cell).isEmpty then .ok none
  else
    plan.capacityVerdict bel (plan.lobeNets moves cell) fun nets => .ok (nets.map plan.clockRequest)

/-! ### All together -/

/-- The first thing that speaks against a cell on a bel, with cells seen where `moves` puts them, when
settings and clock nets are checked by `settings` and `clocks`. -/
def violationBy (plan : Plan) (settings : Cell → BelId → Answer (Option Violation))
    (clocks : Placement → Cell → BelId → Answer (Option Violation)) (cell : Cell) (bel : BelId)
    (moves : Placement) : Answer (Option Violation) :=
  let view : View := ⟨plan.layout, moves⟩
  match plan.voltageViolation? cell bel with
  | some violation => .ok (some violation)
  | none =>
    if ! plan.device.isBel bel then .error .outOfRange
    else
      match groupViolation? view cell bel with
      | some violation => .ok (some violation)
      | none =>
        match settings cell bel with
        | .error fault => .error fault
        | .ok (some violation) => .ok (some violation)
        | .ok none =>
          match if cell.type = "DSP" then plan.cascadeViolation? view cell bel else none with
          | some violation => .ok (some violation)
          | none => clocks moves cell bel

/-- The first thing that speaks against a cell on a bel, with cells seen where `moves` puts them. -/
def violation? (plan : Plan) (cell : Cell) (bel : BelId) (moves : Placement) :
    Answer (Option Violation) :=
  plan.violationBy (fun cell bel => .ok (settingViolation? plan.layout cell bel)) plan.clockViolation?
    cell bel moves

/-- What speaks against the cell on a bel, if there is one that `check` looks at. -/
def violationAtBy (plan : Plan) (check : Cell → BelId → Placement → Answer (Option Violation))
    (bel : BelId) : Answer (Option (Name × Violation)) :=
  match plan.layout.boundCell? bel with
  | none => .ok none
  | some cell =>
    match check cell bel [] with
    | .error fault => .error fault
    | .ok violation => .ok (violation.map fun violation => (cell.name, violation))

/-- What speaks against the cell on a bel, if there is one. -/
def violationAt? (plan : Plan) (bel : BelId) : Answer (Option (Name × Violation)) :=
  plan.violationAtBy plan.violation? bel

/-- Whether a bel is one of the device and nothing speaks against the cell on it. -/
def isLegalAt (plan : Plan) (bel : BelId) : Answer Bool :=
  if plan.device.isBel bel then (plan.violationAt? bel).map Option.isNone else .ok false

end Plan

end UltraFabric
