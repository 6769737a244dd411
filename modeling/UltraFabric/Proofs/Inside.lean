/-
# UltraFabric.Proofs.Inside — nothing is looked up that is not there

A plan keeps ids of bels, wires and pips in many places, and looks them up without asking whether they
are there.  They come from everywhere: from the netlist, from records, from the search for clock paths
and from whoever works on the design, who may name any bel and any cell.

What is kept is of the device all the same (`Inside`), because each place is guarded where it is
written.  Where cells are follows from what cells and bels say of each other, and the tables follow
from the device.  That leaves the bels that cells have to be on (`RequiresBels`) and the traces of the
clock paths (`RoutesInside`).

So the look-ups that insist on an answer get one, whatever has been done before
(`inside_of_tasks`).
-/
import UltraFabric.Proofs.Cascades
import UltraFabric.Proofs.StrictPaths

namespace UltraFabric

set_option autoImplicit false

/-! ### Tables -/

namespace Device

variable {device : Device}

theorem isBel_of_mem_pinsOn {wire : WireId} {bel : BelId} {pin : Name}
    (found : (bel, pin) ∈ device.pinsOn wire) : device.isBel bel = true := by
  obtain ⟨_, ⟨info, there⟩, _⟩ := inRange_of_mem_pinsOn found
  rw [isBel, there, Option.isSome_some]

theorem isBel_of_cascadeNeighbour? {bel next : BelId} {info : BelInfo}
    (found : device.cascadeNeighbour? bel info = some next) : device.isBel next = true := by
  obtain ⟨wire, _, found⟩ := List.exists_of_findSome?_eq_some found
  obtain ⟨near, _, found⟩ := List.exists_of_findSome?_eq_some found
  obtain ⟨⟨other, pin⟩, there, rfl⟩ := Option.map_eq_some_iff.1 found
  exact isBel_of_mem_pinsOn (List.mem_of_find?_eq_some there)

/-- Both ends of a link are bels. -/
theorem isBel_of_cascade {bel next : BelId} (linked : device.cascade[bel]? = some next) :
    device.isBel bel = true ∧ device.isBel next = true := by
  obtain ⟨info, found, _, neighbour⟩ := cascade_eq_some_iff.1 linked
  refine ⟨?_, isBel_of_cascadeNeighbour? neighbour⟩
  rw [isBel, found, Option.isSome_some]

theorem isBel_of_padsOf {tiles : TileNames} {location : String} {bel : BelId}
    (known : (Tables.padsOf device tiles)[location]? = some bel) : device.isBel bel = true := by
  obtain ⟨info, found, _⟩ := Tables.padName_of_padsOf known
  rw [isBel, found, Option.isSome_some]

end Device

/-! ### Bels that cells have to be on -/

namespace Layout

variable {layout after : Layout} {bel : BelId} {name : Name}

/-- A cell that is stored again with another bel has to be on the same one as before. -/
theorem required_insert {cells : Std.ExtTreeMap Name Cell} {cell : Cell}
    (found : cells[name]? = some cell) (place : Option BelId) (other : Name) :
    (cells.insert name { cell with bel := place })[other]?.map Cell.required =
      cells[other]?.map Cell.required := by
  rw [Std.ExtTreeMap.getElem?_insert]
  split
  · rename_i here
    rw [Std.LawfulEqCmp.compare_eq_iff_eq] at here
    rw [← here, found, Option.map_some, Option.map_some]
  · rfl

theorem required_bindBel? (bound : layout.bindBel? bel name = some after) (other : Name) :
    (after.cell? other).map Cell.required = (layout.cell? other).map Cell.required := by
  unfold bindBel? at bound
  split at bound
  · obtain ⟨cell, found, rfl⟩ := Option.map_eq_some_iff.1 bound
    exact required_insert found _ other
  · cases bound

theorem required_unbindBel? (unbound : layout.unbindBel? bel = some (name, after)) (other : Name) :
    (after.cell? other).map Cell.required = (layout.cell? other).map Cell.required := by
  obtain ⟨own, _, same⟩ := Option.map_eq_some_iff.1 unbound
  cases same
  cases found : layout.cell? name with
  | none => rfl
  | some cell => exact required_insert found _ other

/-- Taking wires away takes pips away with them. -/
theorem netOnPip_of_foldl_unbindWire (wires : List WireId) {pip : PipId} :
    ∀ {layout : Layout}, (wires.foldl unbindWire layout).netOnPip[pip]? = some name →
      layout.netOnPip[pip]? = some name := by
  induction wires with
  | nil => exact fun found => found
  | cons wire rest ih =>
      intro layout found
      have found' := ih found
      cases bound : layout.netOnWire[wire]? with
      | none =>
          rw [unbindWire_of_free bound] at found'
          exact found'
      | some own =>
          rw [netOnPip_unbindWire bound] at found'
          split at found'
          · cases found'
          · exact found'

end Layout

namespace Plan

/-- Cells have to be on bels of the device, if anywhere. -/
def RequiresBels (plan : Plan) : Prop :=
  ∀ name cell, plan.layout.cell? name = some cell → ∀ bel, cell.required = some bel →
    plan.device.isBel bel = true

theorem RequiresBels.of_same {before after : Plan} (requires : before.RequiresBels)
    (device : after.device = before.device) (same : ∀ name,
      (after.layout.cell? name).map Cell.required = (before.layout.cell? name).map Cell.required) :
    after.RequiresBels := by
  intro name cell found bel required
  have known := same name
  rw [found, Option.map_some] at known
  obtain ⟨old, found', own⟩ := Option.map_eq_some_iff.1 known.symm
  rw [device]
  exact requires name old found' bel (own.trans required)

theorem Started.requiresBels {device : Device} {netlist : Netlist} {plan : Plan}
    (started : Started device netlist plan) : plan.RequiresBels := by
  obtain ⟨_, _, same⟩ := Layout.BelsAgree.ofNetlist started.named started.placed
  have placeable := (Layout.exists_ofNetlist_iff started.named).1 ⟨_, started.placed⟩
  intro name cell found bel required
  rw [Layout.cell?, same] at found
  rw [started.device]
  exact placeable.onDevice name cell found bel (Or.inr required)

/-- A record requires the bel of a pad that is known. -/
theorem RequiresBels.applyRecord {plan after : Plan} {claimed claimed' : List String}
    {notices : List Notice} {record : ConfigRecord}
    (pads : ∀ (location : String) (bel : BelId), plan.fabric.tables.pads[location]? = some bel →
      plan.device.isBel bel = true)
    (requires : plan.RequiresBels)
    (applied : plan.applyRecord claimed record = (after, notices, .ok claimed')) :
    after.RequiresBels := by
  rcases applyRecord_applied applied with ⟨_, _, -, -, -, rfl, -⟩ |
    ⟨pad, place, lexicon, -, -, known, rfl, -⟩
  · exact requires
  · intro name cell found bel required
    have found' : (plan.setPads pad place).layout.cell? name = some cell := found
    rw [cell?_setPads] at found'
    obtain ⟨old, there, rfl⟩ := Option.map_eq_some_iff.1 found'
    unfold PadRecord.settle at required
    split at required
    · rw [PadRecord.applyTo_eq] at required
      cases required
      exact pads _ _ known
    · exact requires name old there bel required

/-! ### Traces of clock paths -/

/-- Reserved bels, and the wires and pips of nets, are of the device. -/
structure RoutesInside (plan : Plan) : Prop where
  crossed : ∀ kind bel name, (plan.crossed kind)[bel]? = some name → plan.device.isBel bel = true
  wires : ∀ wire name, plan.layout.netOnWire[wire]? = some name → plan.device.InRange (.wire wire)
  pips : ∀ pip name, plan.layout.netOnPip[pip]? = some name → plan.device.InRange (.pip pip)

namespace RoutesInside

variable {plan before after : Plan}

theorem of_same (inside : before.RoutesInside) (same : before.SameCrossings after)
    (wires : ∀ wire name, after.layout.netOnWire[wire]? = some name →
      before.device.InRange (.wire wire)) : after.RoutesInside := by
  refine ⟨fun kind => ?_, ?_, ?_⟩
  · rw [same.crossed, same.device]
    exact inside.crossed kind
  · rw [same.device]
    exact wires
  · rw [same.pips, same.device]
    exact inside.pips

/-- The wire of a driver is one at a pin. -/
theorem reserveSource? {net : Name} {driver : PortRef} {wire : WireId} (inside : before.RoutesInside)
    (drives : before.portWire? driver = some wire)
    (reserved : before.reserveSource? net wire = some after) : after.RoutesInside := by
  refine inside.of_same (sameCrossings_reserveSource? reserved) ?_
  obtain ⟨bel, _, touches⟩ := Option.bind_eq_some_iff.1 drives
  obtain ⟨layout, bound, rfl⟩ := Option.map_eq_some_iff.1 reserved
  rcases Layout.bindWire?_cases bound with ⟨_, rfl⟩ | ⟨_, own, _, rfl⟩
  · exact inside.wires
  · intro place name found
    have found' : (before.layout.take own net wire none).netOnWire[place]? = some name := found
    rw [Layout.netOnWire_take] at found'
    split at found'
    · rename_i here
      exact here ▸ Device.inRange_of_pinWire? touches
    · exact inside.wires place name found'

/-- A pip of the device leads to a wire of it, and through a bel of it. -/
theorem reserveArc? {net : Name} {arc : Arc} (inside : before.RoutesInside)
    (there : arc ∈ before.device.arcs) (reserved : before.reserveArc? net arc = some after) :
    after.RoutesInside := by
  obtain ⟨_, _, own, _, layout⟩ := Layout.bindArc?_eq_some_iff.1 (notes_reserveArc? reserved).1
  have device := device_reserveArc? reserved
  refine ⟨fun kind bel name found => ?_, fun wire name found => ?_, fun pip name found => ?_⟩
  · rw [device]
    rcases crossed_reserveArc? reserved kind with same | ⟨place, crosses, _, same⟩
    · exact inside.crossed kind bel name (same ▸ found)
    · rw [same, Std.ExtTreeMap.getElem?_insert] at found
      split at found
      · rename_i here
        rw [Std.LawfulEqCmp.compare_eq_iff_eq] at here
        exact here ▸ Device.isBel_of_crossedBel? there crosses
      · exact inside.crossed kind bel name found
  · rw [device]
    rw [layout, Layout.netOnWire_take] at found
    split at found
    · rename_i here
      exact here ▸ (Device.inRange_of_arc? (Device.mem_arcs_iff.1 there)).2
    · exact inside.wires wire name found
  · rw [device]
    rw [layout, Layout.netOnPip_take] at found
    split at found
    · rename_i here
      cases here
      exact Device.inRange_of_mem_arcs there
    · exact inside.pips pip name found

/-- A release only takes away. -/
theorem release (inside : plan.RoutesInside) : plan.releaseLowSkew.RoutesInside := by
  have device : plan.releaseLowSkew.device = plan.device := (plan.sameButRouting_pass .release).device
  refine ⟨fun kind bel name found => ?_, fun wire name found => ?_, fun pip name found => ?_⟩
  · cases kind <;> simp [releaseLowSkew, withReserved, Plan.crossed, Reservations.none] at found
  · rw [device]
    have found' :
        (plan.fabric.reserved.wires.foldl Layout.unbindWire plan.layout).netOnWire[wire]? =
          some name := found
    rw [Layout.netOnWire_foldl_unbindWire] at found'
    split at found'
    · cases found'
    · exact inside.wires wire name found'
  · rw [device]
    exact inside.pips pip name (Layout.netOnPip_of_foldl_unbindWire _ found)

theorem perform (inside : plan.RoutesInside) (task : Task) : (plan.perform task).RoutesInside := by
  rcases plan.perform_cases task with ⟨pass, rfl⟩ | kept
  · cases pass with
    | reserve =>
        exact LowSkewPass.keeps_reserveLowSkew
          (fun drives reserved kept => kept.reserveSource? drives reserved)
          (fun there _ reserved kept => kept.reserveArc? there reserved) inside
    | release => exact inside.release
    | unblock => exact inside.of_same plan.sameCrossings_unblock inside.wires
  · refine inside.of_same kept.sameCrossings ?_
    rw [kept.routing.netOnWire]
    exact inside.wires

end RoutesInside

theorem reserved_setUp (plan : Plan) : plan.setUp.1.fabric.reserved = plan.fabric.reserved := by
  simp only [setUp]
  cases ClockBuffer.byLobe plan.device (TileNames.ofChip plan.device.chip) <;> rfl

theorem Started.routesInside {device : Device} {netlist : Netlist} {plan : Plan}
    (started : Started device netlist plan) (fresh : plan.fabric.reserved = .none) :
    plan.RoutesInside := by
  obtain ⟨wires, pips⟩ := started.unbound
  refine ⟨fun kind bel name found => ?_, fun wire name found => ?_, fun pip name found => ?_⟩
  · obtain ⟨_, _, type, _⟩ := namesCrossed_of_unreserved fresh kind bel name found
    obtain ⟨info, there, _⟩ := Option.map_eq_some_iff.1 type
    rw [Device.isBel, there, Option.isSome_some]
  · rw [wires] at found
    simp at found
  · rw [pips] at found
    simp at found

/-! ### All that a plan keeps -/

/-- All that is kept of bels, wires and pips is of the device. -/
structure Inside (plan : Plan) : Prop where
  occupied : ∀ bel name, plan.layout.cellOn[bel]? = some name → plan.device.isBel bel = true
  placed : ∀ name cell, plan.layout.cell? name = some cell → ∀ bel,
    cell.bel = some bel ∨ cell.required = some bel → plan.device.isBel bel = true
  pads : ∀ (location : String) (bel : BelId), plan.fabric.tables.pads[location]? = some bel →
    plan.device.isBel bel = true
  cascade : ∀ bel next : BelId, plan.fabric.tables.cascade[bel]? = some next →
    plan.device.isBel bel = true ∧ plan.device.isBel next = true
  buffers : ClockBuffer.OnDevice plan.device plan.fabric.tables.buffers
  routes : plan.RoutesInside

theorem Prepared.pads {plan : Plan} (prepared : plan.Prepared) (location : String) (bel : BelId)
    (known : plan.fabric.tables.pads[location]? = some bel) : plan.device.isBel bel = true := by
  obtain ⟨_, _, tables⟩ := prepared
  rw [tables] at known
  exact Device.isBel_of_padsOf known

/-- What has to be shown of a plan with the tables of its device. -/
theorem inside_of_prepared {plan : Plan} (agree : plan.layout.BelsAgree) (prepared : plan.Prepared)
    (requires : plan.RequiresBels) (routes : plan.RoutesInside) : plan.Inside where
  occupied := agree.onDevice
  placed := by
    rintro name cell found bel (own | required)
    · exact agree.housed name bel (Layout.belOf?_eq_some_iff.2 ⟨cell, found, own⟩)
    · exact requires name cell found bel required
  pads := prepared.pads
  cascade := by
    obtain ⟨_, _, tables⟩ := prepared
    intro bel next linked
    rw [tables] at linked
    exact Device.isBel_of_cascade linked
  buffers := prepared.onDevice
  routes := routes

theorem RequiresBels.perform {plan : Plan} (requires : plan.RequiresBels) (prepared : plan.Prepared)
    (task : Task) : (plan.perform task).RequiresBels := by
  cases task with
  | bind bel name =>
      obtain ⟨layout, occupancy, same, ⟨_, rfl⟩ | ⟨_, bound⟩⟩ := plan.bind_moves bel name
      · rw [Plan.perform, same]
        exact requires
      · rw [Plan.perform, same]
        exact requires.of_same (Layout.sameRouting_bindBel? bound).device
          (Layout.required_bindBel? bound)
  | unbind bel =>
      obtain ⟨layout, occupancy, same, rfl | ⟨name, unbound⟩⟩ := plan.unbind_moves bel
      · rw [Plan.perform, same]
        exact requires
      · rw [Plan.perform, same]
        exact requires.of_same (Layout.sameRouting_unbindBel? unbound).device
          (Layout.required_unbindBel? unbound)
  | applyRecords records =>
      have both : (plan.applyRecords records).1.Prepared ∧
          (plan.applyRecords records).1.RequiresBels := by
        refine @applyRecordsFrom_keeps (fun plan => plan.Prepared ∧ plan.RequiresBels) records
          (fun record _ before after _ _ _ kept applied => ?_) plan [] [] ⟨prepared, requires⟩
        exact ⟨(keepsPlaces_applyRecord applied).sameTables.prepared kept.1,
          kept.2.applyRecord kept.1.pads applied⟩
      exact both.2
  | pass pass =>
      have same := plan.sameButRouting_pass pass
      refine requires.of_same same.device fun name => ?_
      rw [Plan.perform, same.design.cell?]

end Plan

namespace Strict

/-- `Plan.perform`: a bel is asked for before a cell is put on it, and the pass insists on what it
looks up. -/
def perform (plan : Plan) : Task → Answer Plan
  | .bind bel name => (isBel plan.device bel).map fun _ => plan.perform (.bind bel name)
  | .pass .reserve => (reserveLowSkew plan).map fun (pass, _) => pass.plan
  | task => .ok (plan.perform task)

/-- `Plan.performAll`. -/
def performAll (plan : Plan) (tasks : List Task) : Answer Plan :=
  tasks.foldlM perform plan

theorem perform_eq {plan : Plan} (housed : plan.Housed) (task : Task) :
    perform plan task = .ok (plan.perform task) := by
  cases task with
  | bind bel name =>
      rw [perform, isBel_eq]
      rfl
  | unbind bel => rfl
  | applyRecords records => rfl
  | pass pass =>
      cases pass with
      | reserve =>
          rw [perform, reserveLowSkew_eq housed]
          rfl
      | release => rfl
      | unblock => rfl

end Strict

namespace Plan

/-- What holds of a plan whatever is done next. -/
structure Guarded (plan : Plan) : Prop where
  agree : plan.layout.BelsAgree
  prepared : plan.Prepared
  requires : plan.RequiresBels
  routes : plan.RoutesInside

theorem Guarded.perform {plan : Plan} (guarded : plan.Guarded) (task : Task) :
    (plan.perform task).Guarded := by
  obtain ⟨agree, tables⟩ := sound_perform guarded.agree task
  exact ⟨agree, tables.prepared guarded.prepared,
    guarded.requires.perform guarded.prepared task, guarded.routes.perform task⟩

/-- **Nothing faults on the way**, as every task finds what it insists on. -/
theorem Guarded.performAll (tasks : List Task) :
    ∀ {plan : Plan}, plan.Guarded → (plan.performAll tasks).Guarded ∧
      Strict.performAll plan tasks = .ok (plan.performAll tasks) := by
  induction tasks with
  | nil => exact fun guarded => ⟨guarded, rfl⟩
  | cons task rest ih =>
      intro plan guarded
      obtain ⟨final, answered⟩ := ih (guarded.perform task)
      refine ⟨final, ?_⟩
      have first := Strict.perform_eq guarded.agree.housed task
      simp only [Strict.performAll, List.foldlM_cons, first]
      exact answered

/-- **No id is looked up that the device does not have.**  A design has been started and nothing is
reserved.  Then cells are put on any bels and taken off again, records are applied, clock paths are
reserved and given back, in any order; each of it may be refused or end early.  All of it can be done
with look-ups that insist on what they look for, and what is kept in the end is of the device.  Any bel
can be asked then whether it is legal or fits a type, and any cluster whether it can be placed there:
these have answers, and the same ones when they insist. -/
theorem inside_of_tasks {device : Device} {netlist : Netlist} {plan : Plan}
    (started : Started device netlist plan) (fresh : plan.fabric.reserved = .none)
    (tasks : List Task) :
    Strict.performAll plan tasks = .ok (plan.performAll tasks) ∧
      (plan.performAll tasks).device = device ∧ (plan.performAll tasks).Inside ∧
      (∀ bel, ∃ verdict, (plan.performAll tasks).explainAt bel = .ok verdict ∧
        Strict.explainAt (plan.performAll tasks) bel = .ok verdict) ∧
      (∀ type bel, Strict.fits (plan.performAll tasks) type bel =
        .ok ((plan.performAll tasks).fits type bel)) ∧
      ∀ cluster bel, ∃ answer, (plan.performAll tasks).place? cluster bel = .ok answer ∧
        Strict.place (plan.performAll tasks) cluster bel = .ok answer := by
  have guarded : plan.Guarded := ⟨started.consistent.agree, started.prepared, started.requiresBels,
    started.routesInside fresh⟩
  obtain ⟨final, answered⟩ := guarded.performAll tasks
  have housed := final.agree.housed
  refine ⟨answered, (device_performAll tasks plan).trans started.device,
    inside_of_prepared final.agree final.prepared final.requires final.routes, fun bel => ?_,
    Strict.fits_eq _, fun cluster bel => ?_⟩
  · obtain ⟨verdict, answer⟩ := explainAt_total final.prepared.onDevice bel
    exact ⟨verdict, answer, (Strict.explainAt_eq housed bel).trans answer⟩
  · obtain ⟨placement, answer⟩ := place?_total final.prepared.onDevice cluster bel
    exact ⟨placement, answer, by rw [Strict.place_eq housed, answer]⟩

end Plan

namespace Sample

/-- Bels and cells that are not there, and a record, among tasks that can be done. -/
def wildTasks : List Task :=
  [.bind ⟨7, 9⟩ "left", .bind ⟨0, 1⟩ "nobody", .bind ⟨0, 1⟩ "left", .unbind ⟨0, 12⟩,
    .applyRecords [.bankVoltage "IOB0" "1.8V"], .pass .reserve, .unbind ⟨0, 3⟩, .pass .release]

/-- The sample after such tasks. -/
theorem inside_of_wildTasks :
    plan.fabric.reserved = .none ∧
      Strict.performAll plan wildTasks = .ok (plan.performAll wildTasks) ∧
      (plan.performAll wildTasks).device = device ∧ (plan.performAll wildTasks).Inside ∧
      (∀ bel, ∃ verdict, (plan.performAll wildTasks).explainAt bel = .ok verdict ∧
        Strict.explainAt (plan.performAll wildTasks) bel = .ok verdict) ∧
      (∀ type bel, Strict.fits (plan.performAll wildTasks) type bel =
        .ok ((plan.performAll wildTasks).fits type bel)) ∧
      ∀ cluster bel, ∃ answer, (plan.performAll wildTasks).place? cluster bel = .ok answer ∧
        Strict.place (plan.performAll wildTasks) cluster bel = .ok answer := by
  have fresh : plan.fabric.reserved = .none := Plan.reserved_setUp _
  exact ⟨fresh, Plan.inside_of_tasks started fresh wildTasks⟩

end Sample

end UltraFabric
