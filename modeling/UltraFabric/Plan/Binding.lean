/-
# UltraFabric.Plan.Binding — placing cells and counting what they use

Every cell that is placed or taken away changes the counts of the clock nets in its lobe and of the
voltages in its bank (`track`). `bind` and `unbind` keep the counts in step with the layout;
`Occupancy.recount` computes them from the layout alone.
-/
import UltraFabric.Plan

namespace UltraFabric

set_option autoImplicit false

namespace Tally

variable {γ μ : Type} [Ord γ] [Ord μ] [Std.TransOrd γ] [Std.TransOrd μ]

/-- Counts a member when it arrives and takes it away when it leaves. -/
def change (tally : Tally γ μ) (arrives : Bool) (group : γ) (member : μ) : Tally γ μ :=
  if arrives then tally.add group member else tally.remove group member

end Tally

namespace Plan

/-- The voltage that a cell imposes on its bank: only pads do. -/
def imposedVoltage? (cell : Cell) : Option String :=
  if Primitive.isPad cell.type then cell.voltage? else none

/-- The counts after a cell arrives at a bel or leaves it. -/
def trackedOccupancy (plan : Plan) (occupancy : Occupancy) (bel : BelId) (cell : Cell)
    (arrives : Bool) : Occupancy :=
  let clocks :=
    match plan.fabric.tables.tiles.lobe? bel.tile with
    | none => occupancy.clocks
    | some lobe =>
      (plan.bufferedNets cell).foldl (fun clocks net => clocks.change arrives lobe net)
        occupancy.clocks
  let voltages :=
    match imposedVoltage? cell with
    | none => occupancy.voltages
    | some voltage =>
      occupancy.voltages.change arrives (plan.fabric.tables.tiles.bank bel.tile) voltage
  ⟨clocks, voltages⟩

/-- Notes that a cell arrives at a bel or leaves it. -/
def track (plan : Plan) (bel : BelId) (name : Name) (arrives : Bool) : Plan :=
  match plan.cell? name with
  | none => plan
  | some cell =>
    { plan with
      fabric := { plan.fabric with
        occupancy := plan.trackedOccupancy plan.fabric.occupancy bel cell arrives } }

/-- The counts that follow from the bindings of the layout. -/
def recount (plan : Plan) : Occupancy :=
  plan.layout.boundBels.foldl (fun occupancy (bel, name) =>
    match plan.cell? name with
    | none => occupancy
    | some cell => plan.trackedOccupancy occupancy bel cell true) Occupancy.empty

/-- Puts a cell on a bel, and whether that was possible. A placed cell leaves its old bel first. -/
def bind (plan : Plan) (bel : BelId) (name : Name) : Bool × Plan :=
  match plan.layout.belOf? name with
  | none =>
    match plan.layout.bindBel? bel name with
    | none => (false, plan)
    | some layout => (true, { plan with layout }.track bel name true)
  | some old =>
    if plan.layout.isFree bel then
      let left := plan.track old name false
      match left.layout.bindBel? bel name with
      | none => (false, left)
      | some layout => (true, { left with layout }.track bel name true)
    else (false, plan)

/-- Takes the cell off a bel; the name of that cell. -/
def unbind (plan : Plan) (bel : BelId) : Option Name × Plan :=
  match plan.layout.boundCell? bel with
  | none => (none, plan)
  | some cell =>
    let left := plan.track bel cell.name false
    match left.layout.unbindBel? bel with
    | none => (none, left)
    | some (name, layout) => (some name, { left with layout })

/-- `fits` from what is known of the bel. -/
def fitsAs (plan : Plan) (type : Name) (bel : BelId) (known : Option BelInfo) : Bool :=
  if plan.fabric.reserved.generators.contains bel || plan.fabric.reserved.loops.contains bel then
    false
  else
    match known with
    | none => false
    | some info => ! info.isHidden && Primitive.bucket type = Primitive.bucket info.type

/-- Whether a cell of some type may stand on a bel: the bel is there, is not hidden or reserved, and
is of the same family. -/
def fits (plan : Plan) (type : Name) (bel : BelId) : Bool :=
  plan.fitsAs type bel (plan.device.bel? bel)

/-- A cell fits on bels of the device only. -/
theorem isBel_of_fits {plan : Plan} {type : Name} {bel : BelId} (suits : plan.fits type bel = true) :
    plan.device.isBel bel = true := by
  unfold fits fitsAs at suits
  split at suits
  · cases suits
  · split at suits
    · cases suits
    · rename_i info found
      rw [Device.isBel, found]
      rfl

end Plan

end UltraFabric
