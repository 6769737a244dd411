/-
# UltraFabric.Proofs.Occupancy — the counts and what they count

The counts of a plan change with every cell that arrives at a bel or leaves it.  What they are meant
to count are the uses of the placed cells: `clockUses` and `voltageUses` give those of one cell on one
bel, and `Plan.Counted` says that the tallies hold the uses of all placed cells.

* `holds_recount`: a new count holds the uses of what is placed;
* `unbind_cases`, `bind_cases`: all that a plan can do on the bels of the device is to let a cell leave
  its bel, to let an unplaced cell arrive at a free bel, both in this order, or nothing;
* `Consistent.leave`, `Consistent.arrive`: both moves keep the counts, and that cells and bels name
  each other;
* `KeepsPlaces.consistent`: what neither moves a cell nor touches the counts keeps both;
* `Counted.eq_recount`: a plan that has kept its counts has those of a new count.
-/
import UltraFabric.Plan.Setup
import UltraFabric.Proofs.Bels
import UltraFabric.Proofs.Tally

namespace UltraFabric.Plan

set_option autoImplicit false

/-! ### Uses -/

/-- The clock nets of a cell that take a buffer of the lobe of a bel, once for every port. -/
def clockUses (plan : Plan) (bel : BelId) (cell : Cell) : List (Keyed Nat Name) :=
  match plan.fabric.tables.tiles.lobe? bel.tile with
  | none => []
  | some lobe => (plan.bufferedNets cell).map fun net => ⟨lobe, net⟩

/-- The voltage that a cell imposes on the bank of a bel, if it imposes one. -/
def voltageUses (plan : Plan) (bel : BelId) (cell : Cell) : List (Keyed String String) :=
  (imposedVoltage? cell).toList.map fun voltage => ⟨plan.fabric.tables.tiles.bank bel.tile, voltage⟩

/-- Tracking a cell changes the counts by its uses. -/
theorem trackedOccupancy_eq (plan : Plan) (occupancy : Occupancy) (bel : BelId) (cell : Cell)
    (arrives : Bool) :
    plan.trackedOccupancy occupancy bel cell arrives =
      ⟨occupancy.clocks.changeAll arrives (plan.clockUses bel cell),
        occupancy.voltages.changeAll arrives (plan.voltageUses bel cell)⟩ := by
  have clocks : (plan.trackedOccupancy occupancy bel cell arrives).clocks =
      occupancy.clocks.changeAll arrives (plan.clockUses bel cell) := by
    simp only [trackedOccupancy, clockUses, Tally.changeAll]
    cases plan.fabric.tables.tiles.lobe? bel.tile with
    | none => rfl
    | some lobe => rw [List.foldl_map]
  have voltages : (plan.trackedOccupancy occupancy bel cell arrives).voltages =
      occupancy.voltages.changeAll arrives (plan.voltageUses bel cell) := by
    simp only [trackedOccupancy, voltageUses, Tally.changeAll]
    cases imposedVoltage? cell <;> rfl
  rw [← clocks, ← voltages]

/-- The uses of all placed cells. -/
def allClockUses (plan : Plan) : List (Keyed Nat Name) :=
  plan.layout.uses plan.clockUses

def allVoltageUses (plan : Plan) : List (Keyed String String) :=
  plan.layout.uses plan.voltageUses

theorem mem_clockUses_iff {plan : Plan} {bel : BelId} {cell : Cell} {lobe : Nat} {net : Name} :
    (⟨lobe, net⟩ : Keyed Nat Name) ∈ plan.clockUses bel cell ↔
      plan.fabric.tables.tiles.lobe? bel.tile = some lobe ∧ net ∈ plan.bufferedNets cell := by
  rw [clockUses]
  cases plan.fabric.tables.tiles.lobe? bel.tile with
  | none => simp
  | some own =>
      rw [List.mem_map]
      constructor
      · rintro ⟨net', used, same⟩
        cases same
        exact ⟨rfl, used⟩
      · rintro ⟨same, used⟩
        cases same
        exact ⟨net, used, rfl⟩

/-- The tallies hold the uses of the placed cells. -/
structure Counted (plan : Plan) : Prop where
  clocks : plan.fabric.occupancy.clocks.Holds plan.allClockUses
  voltages : plan.fabric.occupancy.voltages.Holds plan.allVoltageUses

/-- One step of a new count. -/
def countIn (plan : Plan) (occupancy : Occupancy) (entry : BelId × Name) : Occupancy :=
  match plan.cell? entry.2 with
  | none => occupancy
  | some cell => plan.trackedOccupancy occupancy entry.1 cell true

/-- A new count adds the uses of one cell after the other to what has been counted. -/
theorem holds_foldl_countIn (plan : Plan) (bels : List (BelId × Name)) :
    ∀ (occupancy : Occupancy) (clocks : List (Keyed Nat Name))
      (voltages : List (Keyed String String)),
      occupancy.clocks.Holds clocks → occupancy.voltages.Holds voltages →
      ((bels.foldl plan.countIn occupancy).clocks.Holds
          (((plan.layout.cellsOf bels).flatMap fun (bel, cell) => plan.clockUses bel cell) ++
            clocks)) ∧
        (bels.foldl plan.countIn occupancy).voltages.Holds
          (((plan.layout.cellsOf bels).flatMap fun (bel, cell) => plan.voltageUses bel cell) ++
            voltages) := by
  induction bels with
  | nil =>
      intro occupancy clocks voltages holds holds'
      exact ⟨holds, holds'⟩
  | cons entry rest ih =>
      obtain ⟨bel, name⟩ := entry
      intro occupancy clocks voltages holds holds'
      rw [List.foldl_cons, Layout.cellsOf_cons]
      cases found : plan.layout.cell? name with
      | none =>
          have step : plan.countIn occupancy (bel, name) = occupancy := by
            simp only [countIn, cell?, found]
          rw [step]
          exact ih occupancy clocks voltages holds holds'
      | some cell =>
          have step : plan.countIn occupancy (bel, name) =
              plan.trackedOccupancy occupancy bel cell true := by
            simp only [countIn, cell?, found]
          rw [step, trackedOccupancy_eq]
          obtain ⟨clocks', voltages'⟩ := ih ⟨_, _⟩ _ _ (holds.arrive (plan.clockUses bel cell))
            (holds'.arrive (plan.voltageUses bel cell))
          refine ⟨clocks'.perm ?_, voltages'.perm ?_⟩
          · rw [← List.append_assoc]
            exact List.perm_append_comm.append_right clocks
          · rw [← List.append_assoc]
            exact List.perm_append_comm.append_right voltages

theorem holds_recount (plan : Plan) :
    plan.recount.clocks.Holds plan.allClockUses ∧
      plan.recount.voltages.Holds plan.allVoltageUses := by
  obtain ⟨clocks, voltages⟩ := plan.holds_foldl_countIn plan.layout.boundBels Occupancy.empty [] []
    Tally.holds_empty Tally.holds_empty
  rw [List.append_nil] at clocks voltages
  exact ⟨clocks, voltages⟩

/-- Counts that have been kept are the counts of a new count. -/
theorem Counted.eq_recount {plan : Plan} (counted : plan.Counted) :
    plan.fabric.occupancy = plan.recount := by
  obtain ⟨clocks, voltages⟩ := plan.holds_recount
  have sameClocks := counted.clocks.unique clocks
  have sameVoltages := counted.voltages.unique voltages
  calc plan.fabric.occupancy
      = ⟨plan.fabric.occupancy.clocks, plan.fabric.occupancy.voltages⟩ := rfl
    _ = ⟨plan.recount.clocks, plan.recount.voltages⟩ := by rw [sameClocks, sameVoltages]
    _ = plan.recount := rfl

/-! ### Leaving and arriving -/

/-- A cell leaves its bel, and its uses leave the counts. -/
def leave (plan : Plan) (bel : BelId) (cell : Cell) : Plan :=
  { plan with
    layout := plan.layout.vacate bel cell
    fabric := { plan.fabric with
      occupancy := plan.trackedOccupancy plan.fabric.occupancy bel cell false } }

/-- An unplaced cell arrives at a bel, and its uses are counted. -/
def arrive (plan : Plan) (bel : BelId) (cell : Cell) : Plan :=
  { plan with
    layout := plan.layout.occupy bel cell
    fabric := { plan.fabric with
      occupancy := plan.trackedOccupancy plan.fabric.occupancy bel cell true } }

theorem layout_track (plan : Plan) (bel : BelId) (name : Name) (arrives : Bool) :
    (plan.track bel name arrives).layout = plan.layout := by
  unfold track
  split <;> rfl

theorem track_of_found {plan : Plan} {name : Name} {cell : Cell} (bel : BelId) (arrives : Bool)
    (found : plan.cell? name = some cell) :
    plan.track bel name arrives = { plan with
      fabric := { plan.fabric with
        occupancy := plan.trackedOccupancy plan.fabric.occupancy bel cell arrives } } := by
  simp only [track, found]

section Moves

variable {plan : Plan} {bel : BelId} {cell : Cell}

/-- A bel is empty and nothing happens, or its cell leaves. -/
theorem unbind_cases (agree : plan.layout.BelsAgree) (bel : BelId) :
    (plan.layout.boundCell? bel = none ∧ plan.unbind bel = (none, plan)) ∨
      ∃ cell, plan.layout.boundCell? bel = some cell ∧
        plan.unbind bel = (some cell.name, plan.leave bel cell) := by
  cases bound : plan.layout.boundCell? bel with
  | none => exact Or.inl ⟨rfl, by simp only [unbind, bound]⟩
  | some cell =>
      refine Or.inr ⟨cell, rfl, ?_⟩
      have found : plan.cell? cell.name = some cell := (agree.bound_iff.1 bound).1
      simp only [unbind, bound, track_of_found bel false found, Layout.unbindBel?_bound agree bound]
      rfl

theorem bind_unplaced (isBel : plan.layout.device.isBel bel = true)
    (free : plan.layout.isFree bel = true) (found : plan.layout.cell? cell.name = some cell)
    (unplaced : cell.bel = none) :
    plan.bind bel cell.name = (true, plan.arrive bel cell) := by
  have nowhere : plan.layout.belOf? cell.name = none := by
    simp only [Layout.belOf?, found, Option.bind_some, unplaced]
  have there : ({ plan with layout := plan.layout.occupy bel cell } : Plan).cell? cell.name =
      some { cell with bel := some bel } := by
    simp only [cell?, Layout.cell?_occupy, if_true]
  have tracked := track_of_found bel true there
  simp only [bind, nowhere, Layout.bindBel?_unplaced isBel free found unplaced]
  exact congrArg (Prod.mk true) tracked

/-- A placed cell leaves its old bel, and then it arrives. -/
theorem bind_placed {old : BelId} (agree : plan.layout.BelsAgree)
    (bound : plan.layout.boundCell? old = some cell) (isBel : plan.layout.device.isBel bel = true)
    (free : plan.layout.isFree bel = true) :
    plan.bind bel cell.name =
      (true, (plan.leave old cell).arrive bel { cell with bel := none }) := by
  obtain ⟨found, placed⟩ := agree.bound_iff.1 bound
  have somewhere : plan.layout.belOf? cell.name = some old := by
    simp only [Layout.belOf?, found, Option.bind_some, placed]
  have left : plan.track old cell.name false = { plan with
      fabric := { plan.fabric with
        occupancy := plan.trackedOccupancy plan.fabric.occupancy old cell false } } :=
    track_of_found old false found
  have moved := Layout.bindBel?_placed agree bound isBel free
  have there : ({ plan.leave old cell with
      layout := (plan.layout.vacate old cell).occupy bel { cell with bel := none } } : Plan).cell?
        cell.name = some { cell with bel := some bel } := by
    simp only [cell?, Layout.cell?_occupy, if_true]
  have tracked := track_of_found bel true there
  simp only [bind, somewhere, free, if_true, left, moved]
  exact congrArg (Prod.mk true) tracked

/-- **All that binding can do on a bel of the device.**  It is refused, and then nothing at all
changes; or an unplaced cell arrives; or a placed cell leaves its bel and arrives. -/
theorem bind_cases (agree : plan.layout.BelsAgree) (isBel : plan.layout.device.isBel bel = true)
    (name : Name) :
    plan.bind bel name = (false, plan) ∨
      (plan.layout.isFree bel = true ∧ ∃ cell, cell.name = name ∧
        plan.layout.cell? name = some cell ∧ cell.bel = none ∧
        plan.bind bel name = (true, plan.arrive bel cell)) ∨
      (plan.layout.isFree bel = true ∧ ∃ old cell, cell.name = name ∧
        plan.layout.boundCell? old = some cell ∧
        plan.bind bel name =
          (true, (plan.leave old cell).arrive bel { cell with bel := none })) := by
  cases free : plan.layout.isFree bel with
  | false =>
      left
      have refused : plan.layout.bindBel? bel name = none :=
        Layout.bindBel?_eq_none_iff.2 (Or.inr (Or.inl free))
      cases somewhere : plan.layout.belOf? name with
      | none => simp only [bind, somewhere, refused]
      | some old => simp [bind, somewhere, free]
  | true =>
      cases found : plan.layout.cell? name with
      | none =>
          left
          have refused : plan.layout.bindBel? bel name = none :=
            Layout.bindBel?_eq_none_iff.2 (Or.inr (Or.inr found))
          have nowhere : plan.layout.belOf? name = none := by
            simp only [Layout.belOf?, found, Option.bind_none]
          simp only [bind, nowhere, refused]
      | some cell =>
          right
          cases agree.named name cell found
          cases place : cell.bel with
          | none => exact Or.inl ⟨rfl, cell, rfl, rfl, place, bind_unplaced isBel free found place⟩
          | some old =>
              have bound : plan.layout.boundCell? old = some cell :=
                agree.bound_iff.2 ⟨found, place⟩
              exact Or.inr ⟨rfl, old, cell, rfl, bound, bind_placed agree bound isBel free⟩

end Moves

/-! ### What is kept -/

/-- Cells and bels name each other, and the counts are those of the placed cells. -/
structure Consistent (plan : Plan) : Prop where
  agree : plan.layout.BelsAgree
  counted : plan.Counted

namespace Consistent

variable {plan : Plan} {bel : BelId} {cell : Cell}

theorem leave (consistent : plan.Consistent) (bound : plan.layout.boundCell? bel = some cell) :
    (plan.leave bel cell).Consistent := by
  obtain ⟨agree, clocks, voltages⟩ := consistent
  refine ⟨agree.vacate bound, ?_, ?_⟩
  · have left := (clocks.perm (Layout.uses_vacate plan.clockUses agree bound)).leave
    rw [Plan.leave, trackedOccupancy_eq]
    exact left
  · have left := (voltages.perm (Layout.uses_vacate plan.voltageUses agree bound)).leave
    rw [Plan.leave, trackedOccupancy_eq]
    exact left

theorem arrive (consistent : plan.Consistent) (isBel : plan.layout.device.isBel bel = true)
    (free : plan.layout.isFree bel = true) (found : plan.layout.cell? cell.name = some cell)
    (unplaced : cell.bel = none) : (plan.arrive bel cell).Consistent := by
  obtain ⟨agree, clocks, voltages⟩ := consistent
  refine ⟨agree.occupy isBel free found unplaced, ?_, ?_⟩
  · have added := Layout.uses_occupy plan.clockUses agree free found unplaced
    have counted := (clocks.arrive (plan.clockUses bel cell)).perm added.symm
    rw [Plan.arrive, trackedOccupancy_eq]
    exact counted
  · have added := Layout.uses_occupy plan.voltageUses agree free found unplaced
    have counted := (voltages.arrive (plan.voltageUses bel cell)).perm added.symm
    rw [Plan.arrive, trackedOccupancy_eq]
    exact counted

theorem unbind (consistent : plan.Consistent) (bel : BelId) : (plan.unbind bel).2.Consistent := by
  rcases unbind_cases consistent.agree bel with ⟨_, same⟩ | ⟨cell, bound, same⟩
  · rw [same]
    exact consistent
  · rw [same]
    exact consistent.leave bound

theorem bind (consistent : plan.Consistent) (isBel : plan.layout.device.isBel bel = true)
    (name : Name) : (plan.bind bel name).2.Consistent := by
  rcases bind_cases consistent.agree isBel name with
    same | ⟨free, cell, rfl, found, unplaced, same⟩ | ⟨free, old, cell, rfl, bound, same⟩
  · rw [same]
    exact consistent
  · rw [same]
    exact consistent.arrive isBel free found unplaced
  · rw [same]
    have left := consistent.leave bound
    refine left.arrive isBel (Layout.isFree_vacate_of_isFree free) ?_ rfl
    exact (Layout.cell?_vacate cell.name).trans (if_pos rfl)

end Consistent

/-! ### What neither moves a cell nor counts -/

/-- A cell without the settings that records make. -/
def unset (cell : Cell) : Cell :=
  { cell with params := ∅, required := none }

/-- Cells stay on their bels, with their types and ports, and the counts stay as they are. -/
structure KeepsPlaces (before after : Plan) : Prop where
  device : after.layout.device = before.layout.device
  cellOn : after.layout.cellOn = before.layout.cellOn
  cells : ∀ name, (after.layout.cell? name).map unset = (before.layout.cell? name).map unset
  clocks : after.fabric.clocks = before.fabric.clocks
  tables : after.fabric.tables = before.fabric.tables
  occupancy : after.fabric.occupancy = before.fabric.occupancy

namespace KeepsPlaces

variable {before after : Plan}

theorem refl (plan : Plan) : plan.KeepsPlaces plan :=
  ⟨rfl, rfl, fun _ => rfl, rfl, rfl, rfl⟩

theorem trans {last : Plan} (first : before.KeepsPlaces after) (second : after.KeepsPlaces last) :
    before.KeepsPlaces last where
  device := second.device.trans first.device
  cellOn := second.cellOn.trans first.cellOn
  cells name := (second.cells name).trans (first.cells name)
  clocks := second.clocks.trans first.clocks
  tables := second.tables.trans first.tables
  occupancy := second.occupancy.trans first.occupancy

theorem belOf? (kept : before.KeepsPlaces after) (name : Name) :
    after.layout.belOf? name = before.layout.belOf? name := by
  have read : ∀ layout : Layout,
      layout.belOf? name = ((layout.cell? name).map unset).bind Cell.bel := by
    intro layout
    rw [Layout.belOf?]
    cases layout.cell? name <;> rfl
  rw [read, read, kept.cells name]

theorem agree (kept : before.KeepsPlaces after) (agree : before.layout.BelsAgree) :
    after.layout.BelsAgree := by
  refine ⟨fun name cell found => ?_, fun bel name => ?_, fun bel name there => ?_⟩
  · have same := kept.cells name
    have found : after.layout.cell? name = some cell := found
    rw [found, Option.map_some] at same
    obtain ⟨cell', found', same'⟩ := Option.map_eq_some_iff.1 same.symm
    have sameName : (unset cell').name = (unset cell).name := congrArg Cell.name same'
    change cell'.name = cell.name at sameName
    rw [← sameName]
    exact agree.named name cell' found'
  · rw [kept.cellOn, kept.belOf? name]
    exact agree.placed_iff bel name
  · rw [kept.device]
    rw [kept.cellOn] at there
    exact agree.onDevice bel name there

theorem clockUses (kept : before.KeepsPlaces after) (bel : BelId) {cell cell' : Cell}
    (same : unset cell' = unset cell) : after.clockUses bel cell' = before.clockUses bel cell := by
  have sameNets : after.bufferedNets cell' = before.bufferedNets cell := by
    have sameType : (unset cell').type = (unset cell).type := congrArg Cell.type same
    have samePorts : (unset cell').ports = (unset cell).ports := congrArg Cell.ports same
    change cell'.type = cell.type at sameType
    change cell'.ports = cell.ports at samePorts
    rw [bufferedNets, bufferedNets, kept.clocks, sameType, samePorts]
  rw [Plan.clockUses, Plan.clockUses, kept.tables, sameNets]

theorem allClockUses (kept : before.KeepsPlaces after) :
    after.allClockUses = before.allClockUses := by
  have along : ∀ bels : List (BelId × Name),
      ((after.layout.cellsOf bels).flatMap fun (bel, cell) => after.clockUses bel cell) =
        (before.layout.cellsOf bels).flatMap fun (bel, cell) => before.clockUses bel cell := by
    intro bels
    induction bels with
    | nil => rfl
    | cons entry rest ih =>
        obtain ⟨bel, name⟩ := entry
        have same := kept.cells name
        rw [Layout.cellsOf_cons, Layout.cellsOf_cons]
        cases found : after.layout.cell? name with
        | none =>
            rw [found, Option.map_none, eq_comm, Option.map_eq_none_iff] at same
            rw [same]
            exact ih
        | some cell' =>
            rw [found, Option.map_some] at same
            obtain ⟨cell, found', same⟩ := Option.map_eq_some_iff.1 same.symm
            rw [found']
            simp only [List.flatMap_cons]
            rw [ih, kept.clockUses bel same.symm]
  have bels : after.layout.boundBels = before.layout.boundBels := by
    rw [Layout.boundBels, kept.cellOn, Layout.boundBels]
  rw [Plan.allClockUses, Layout.uses, Layout.placedCells, bels]
  exact along before.layout.boundBels

/-- The clock counts are right after as they were before. -/
theorem holds_clocks (kept : before.KeepsPlaces after)
    (holds : before.fabric.occupancy.clocks.Holds before.allClockUses) :
    after.fabric.occupancy.clocks.Holds after.allClockUses := by
  rw [kept.occupancy, kept.allClockUses]
  exact holds

theorem allVoltageUses (kept : before.KeepsPlaces after)
    (same : ∀ name, after.layout.cell? name = before.layout.cell? name) :
    after.allVoltageUses = before.allVoltageUses := by
  have cells : after.layout.placedCells = before.layout.placedCells := by
    have sameCells : after.layout.cell? = before.layout.cell? := funext same
    rw [Layout.placedCells, Layout.placedCells, Layout.boundBels, Layout.boundBels,
      Layout.cellsOf, Layout.cellsOf, kept.cellOn, sameCells]
  have uses : after.voltageUses = before.voltageUses := by
    funext bel cell
    rw [Plan.voltageUses, Plan.voltageUses, kept.tables]
  rw [Plan.allVoltageUses, Plan.allVoltageUses, Layout.uses, Layout.uses, cells, uses]

/-- What does not touch the cells at all keeps all counts right. -/
theorem consistent (kept : before.KeepsPlaces after)
    (same : ∀ name, after.layout.cell? name = before.layout.cell? name)
    (consistent : before.Consistent) : after.Consistent := by
  refine ⟨kept.agree consistent.agree, kept.holds_clocks consistent.counted.clocks, ?_⟩
  rw [kept.occupancy, kept.allVoltageUses same]
  exact consistent.counted.voltages

end KeepsPlaces

end UltraFabric.Plan
