/-
# UltraFabric.Proofs.Clusters — an accepted placement, once it has been made

A placement is accepted when every member fits with all others where the placement puts them.  Three of
the checks see the others in a view, so what they have accepted stays accepted when the placement has
been made.  The other two read counts, which do not know of the moves:

* the voltages of the other members are not counted yet.  A pad is accepted beside another member that
  imposes another voltage, and both are refused afterwards (`voltageViolation?_of_committed_iff`);
* the clock nets of the members are added to those that are counted, so their number is right, but
  drivers are looked for where they are before the moves.  As long as no driver of such a net moves, the
  lobes serve what they are asked for, and less is asked of them than before
  (`clockViolation?_of_committed`).

`place?_legal_iff` puts this together for every plan that can come about.  `PairSample.sibling_voltages` is
an accepted placement of two pads that are both refused once they are there.
-/
import UltraFabric.Proofs.Foresight
import UltraFabric.Proofs.Members
import UltraFabric.Proofs.Reachable

namespace UltraFabric

set_option autoImplicit false

namespace Plan

/-- A member of a placement imposes a voltage on a bank, at the place that it is to have. -/
def ImposesAt (plan : Plan) (placement : Placement) (bank voltage : String) : Prop :=
  ∃ entry ∈ placement, plan.fabric.tables.tiles.bank entry.2.tile = bank ∧
    ∃ cell, plan.layout.cell? entry.1 = some cell ∧ imposedVoltage? cell = some voltage

/-- The members of a placement in one bank impose one voltage, unless the bank has a configured one. -/
def SharesVoltages (plan : Plan) (placement : Placement) : Prop :=
  ∀ bank, plan.fabric.bankVoltage[bank]? = none → ∀ voltage other,
    plan.ImposesAt placement bank voltage → plan.ImposesAt placement bank other → voltage = other

/-- A cell, if it imposes a voltage, agrees with the members that go to its bank. -/
def AgreesInBank (plan : Plan) (placement : Placement) (cell : Cell) (bel : BelId) : Prop :=
  ∀ voltage, imposedVoltage? cell = some voltage →
    plan.fabric.bankVoltage[plan.fabric.tables.tiles.bank bel.tile]? = none →
      ∀ other, plan.ImposesAt placement (plan.fabric.tables.tiles.bank bel.tile) other →
        other = voltage

/-- No cell that drives a clock net of a lobe of the members is moved. -/
def DriversStay (plan : Plan) (placement : Placement) : Prop :=
  ∀ entry ∈ placement, ∀ cell lobe, plan.layout.cell? entry.1 = some cell →
    plan.fabric.tables.tiles.lobe? entry.2.tile = some lobe →
    ∀ net ∈ plan.lobeNets placement cell lobe, ∀ driver,
      (plan.net? net).bind Net.driver = some driver →
        (View.mk plan.layout placement).belOf? driver.cell = plan.layout.belOf? driver.cell

theorem sharesVoltages_iff {plan : Plan} {placement : Placement} :
    plan.SharesVoltages placement ↔ ∀ entry ∈ placement, ∀ cell,
      plan.layout.cell? entry.1 = some cell → plan.AgreesInBank placement cell entry.2 := by
  constructor
  · intro shares entry member cell found voltage imposed unconfigured other imposes
    exact shares _ unconfigured other voltage imposes ⟨entry, member, rfl, cell, found, imposed⟩
  · rintro agree bank unconfigured voltage other ⟨entry, member, rfl, cell, found, imposed⟩ imposes
    exact (agree entry member cell found voltage imposed unconfigured other imposes).symm

theorem usedBy_voltageUses_iff {plan : Plan} {placement : Placement} {bank voltage : String} :
    plan.layout.UsedBy plan.voltageUses placement ⟨bank, voltage⟩ ↔
      plan.ImposesAt placement bank voltage := by
  refine exists_congr fun entry => and_congr_right fun _ => ?_
  simp only [voltageUses, List.mem_map, Option.mem_toList, Keyed.mk.injEq]
  constructor
  · rintro ⟨cell, found, own, imposed, rfl, rfl⟩
    exact ⟨rfl, cell, found, imposed⟩
  · rintro ⟨rfl, cell, found, imposed⟩
    exact ⟨cell, found, voltage, imposed, rfl, rfl⟩

section Committed

variable {before after : Plan} {placement : Placement} {name : Name} {bel : BelId} {cell : Cell}

/-! ### Voltages -/

/-- **A pad that was accepted is refused exactly for a voltage of another member.** -/
theorem voltageViolation?_of_committed_iff (committed : before.Committed placement after)
    (quiet : before.voltageViolation? cell bel = none) (place : Option BelId) :
    after.voltageViolation? { cell with bel := place } bel = none ↔
      before.AgreesInBank placement cell bel := by
  have tables : after.fabric.tables = before.fabric.tables := by rw [committed.moves.fabric]
  have banks : after.fabric.bankVoltage = before.fabric.bankVoltage := by
    rw [committed.moves.fabric]
  unfold AgreesInBank
  cases imposed : imposedVoltage? cell with
  | none =>
      have imposed' : imposedVoltage? { cell with bel := place } = none := imposed
      simp [voltageViolation?, imposed']
  | some voltage =>
      have imposed' : imposedVoltage? { cell with bel := place } = some voltage := imposed
      rw [voltageViolation?_eq_none_iff_agrees imposed] at quiet
      rw [voltageViolation?_eq_none_iff_agrees imposed', tables]
      simp only [Option.some.injEq, forall_eq']
      generalize before.fabric.tables.tiles.bank bel.tile = bank at quiet ⊢
      cases configuration : before.fabric.bankVoltage[bank]? with
      | some configured =>
          refine iff_of_true ?_ (fun impossible => by cases impossible)
          simpa [bankVoltage?, banks, configuration] using quiet
      | none =>
          have unconfigured : after.fabric.bankVoltage[bank]? = none := by rw [banks, configuration]
          rw [bankVoltage?_agrees_iff configuration] at quiet
          rw [bankVoltage?_agrees_iff unconfigured]
          simp only [true_implies]
          constructor
          · intro agree other imposes
            have counted := committed.counted bank other (usedBy_voltageUses_iff.2 imposes)
            exact agree other (Tally.mem_members_iff.2 counted)
          · intro agree other member
            rcases committed.voltages bank other (Tally.mem_members_iff.1 member) with old | used
            · exact quiet other (Tally.mem_members_iff.2 old)
            · exact agree other (usedBy_voltageUses_iff.1 used)

/-! ### Clock nets -/

theorem mem_movedNets_iff {plan : Plan} {moves : Placement} {lobe : Nat} {net : Name} :
    net ∈ plan.movedNets moves lobe ↔ plan.layout.UsedBy plan.clockUses moves ⟨lobe, net⟩ := by
  rw [movedNets, List.mem_flatMap]
  refine exists_congr fun entry => and_congr_right fun _ => ?_
  simp only [mem_clockUses_iff]
  cases found : plan.layout.cell? entry.1 with
  | none => simp [cell?, found]
  | some cell =>
      by_cases here : plan.fabric.tables.tiles.lobe? entry.2.tile = some lobe
      · simp [cell?, found, here]
      · simp [here]

/-- A net asks for the same when its driver is at the same place. -/
theorem requestAt_congr {plan : Plan} {place place' : Name → Option BelId} {net : Name}
    (stays : ∀ driver, (plan.net? net).bind Net.driver = some driver →
      place driver.cell = place' driver.cell) : plan.requestAt place net = plan.requestAt place' net := by
  rw [requestAt, requestAt]
  cases driven : (plan.net? net).bind Net.driver with
  | none => rfl
  | some driver =>
      have there := stays driver driven
      have tier : plan.tierAt place driver = plan.tierAt place' driver := by
        rw [tierAt, tierAt, isRingPad, isRingPad, there]
      simp only [tier, there]

/-- After some moves, drivers ask from where they are then. -/
theorem clockRequest_of_moves (moves : before.OnlyMoves after) :
    after.clockRequest = before.requestAt after.layout.belOf? := by
  funext net
  have nets : after.net? net = before.net? net := by
    rw [net?, Layout.net?, Netlist.net?, moves.nets]
    rfl
  have source : after.sourceTier? = before.sourceTier? := by
    funext driver
    rw [sourceTier?, sourceTier?, cell?, cell?, moves.cells, moves.fabric]
    cases before.layout.cell? driver.cell <;> rfl
  have device : after.device = before.device := moves.device
  have tables : after.fabric.tables = before.fabric.tables := by rw [moves.fabric]
  have tier : after.tierAt after.layout.belOf? = before.tierAt after.layout.belOf? := by
    funext driver
    rw [tierAt, tierAt, isRingPad, isRingPad, source, tables]
  rw [clockRequest, requestAt, requestAt, nets, tier, device]

/-- **Less is asked of a lobe than was reckoned with.** -/
theorem lobeNets_sublist (committed : before.Committed placement after) (cell : Cell)
    (place : Option BelId) (lobe : Nat) :
    (after.lobeNets [] { cell with bel := place } lobe).Sublist
      (before.lobeNets placement cell lobe) := by
  have lexicon : after.lexicon = before.lexicon := committed.moves.lexicon
  have own : after.bufferedNets { cell with bel := place } = before.bufferedNets cell :=
    committed.moves.bufferedNets _
  refine lobeNets_sublist_of_subset lexicon fun net member => ?_
  rw [mem_lobeNets_iff] at member ⊢
  rcases member with needed | counted | moved
  · rw [own] at needed
    exact Or.inl needed
  · rcases committed.clocks lobe net (Tally.mem_members_iff.1 counted) with old | used
    · exact Or.inr (Or.inl (Tally.mem_members_iff.2 old))
    · exact Or.inr (Or.inr (mem_movedNets_iff.2 used))
  · cases moved

/-- **The lobes of the members serve their clock nets**, if the drivers of these stay. -/
theorem clockViolation?_of_committed (committed : before.Committed placement after)
    (there : ClockBuffer.OnDevice before.device before.fabric.tables.buffers)
    (stay : before.DriversStay placement) (member : (name, bel) ∈ placement)
    (found : before.layout.cell? name = some cell)
    (quiet : before.clockViolation? placement cell bel = .ok none) (place : Option BelId) :
    after.clockViolation? [] { cell with bel := place } bel = .ok none := by
  have device : after.device = before.device := committed.moves.device
  have tables : after.fabric.tables = before.fabric.tables := by rw [committed.moves.fabric]
  have options : after.fabric.options = before.fabric.options := by rw [committed.moves.fabric]
  have own : after.bufferedNets { cell with bel := place } = before.bufferedNets cell :=
    committed.moves.bufferedNets _
  rw [clockViolation?_eq_ok_none_iff_assigned] at quiet
  rw [clockViolation?_eq_ok_none_iff_assigned, own, tables, device, options]
  intro clocked lobe here buffers known
  obtain ⟨served, assigned⟩ := quiet clocked lobe here buffers known
  have fewer := lobeNets_sublist committed cell place lobe
  have requests : (after.lobeNets [] { cell with bel := place } lobe).map after.clockRequest =
      (after.lobeNets [] { cell with bel := place } lobe).map before.clockRequest := by
    refine List.map_congr_left fun net asked => ?_
    rw [clockRequest_of_moves committed.moves]
    refine requestAt_congr fun driver driven => ?_
    rw [committed.belOf?_eq]
    exact stay _ member cell lobe found here net (fewer.subset asked) driver driven
  rw [requests]
  exact ClockBuffer.assigned_of_sublists (fun _ => there lobe buffers known) (.refl buffers)
    (fewer.map _) assigned

end Committed

/-! ### Whole placements -/

theorem memberFits_eq_ok_true_iff {plan : Plan} {cell : Cell} {bel : BelId} {placement : Placement} :
    plan.memberFits cell bel placement = .ok true ↔
      plan.fits cell.type bel = true ∧ plan.violation? cell bel placement = .ok none := by
  unfold memberFits
  cases plan.fits cell.type bel with
  | false => simp
  | true =>
      cases plan.violation? cell bel placement with
      | error fault => simp [Except.map]
      | ok answer => cases answer <;> simp [Except.map]

/-- Members that fit have cells and bels of the device; that nobody has two places, and that the bels
are empty or held by members, is asked besides. -/
theorem Admitted.makeable {plan : Plan} {placement : Placement} (admitted : plan.Admitted placement)
    (names : (placement.map Prod.fst).Nodup)
    (room : ∀ entry ∈ placement, ∀ name, plan.layout.cellOn[entry.2]? = some name →
      name ∈ placement.map Prod.fst) : plan.Makeable placement := by
  refine ⟨names, admitted.apart, fun entry member => ?_, fun entry member => ?_, room⟩
  · obtain ⟨cell, found, _⟩ := admitted.fits entry member
    exact ⟨cell, found⟩
  · obtain ⟨cell, _, fits⟩ := admitted.fits entry member
    exact isBel_of_fits (memberFits_eq_ok_true_iff.1 fits).1

section Admitted

variable {before after : Plan} {placement : Placement} {entry : Name × BelId} {cell : Cell}

/-- **Only voltages and clock buffers can turn out wrong.**  A member that was accepted is legal once
the placement has been made exactly when it agrees with the members in its bank and the lobe has the
buffers. -/
theorem isLegalAt_of_committed_iff (committed : before.Committed placement after)
    (agree : before.layout.BelsAgree) (admitted : before.Admitted placement)
    (member : entry ∈ placement) (found : before.layout.cell? entry.1 = some cell) :
    after.isLegalAt entry.2 = .ok true ↔ before.AgreesInBank placement cell entry.2 ∧
      after.clockViolation? [] { cell with bel := some entry.2 } entry.2 = .ok none := by
  obtain ⟨own, found', fits⟩ := admitted.fits entry member
  cases found.symm.trans found'
  obtain ⟨fits, quiet⟩ := memberFits_eq_ok_true_iff.1 fits
  have isBel := isBel_of_fits fits
  obtain ⟨voltage, group, setting, cascade, _⟩ := (violation?_eq_ok_none_iff isBel placement).1 quiet
  have shows := committed.shows agree
  have tables : after.fabric.tables = before.fabric.tables := by rw [committed.moves.fabric]
  have device : after.device = before.device := committed.moves.device
  have isBel' : after.device.isBel entry.2 = true := by
    rw [device]
    exact isBel
  have there := committed.there entry member
  have bound : after.layout.boundCell? entry.2 = some { cell with bel := some entry.2 } := by
    refine Layout.boundCell?_eq_some_iff.2
      ⟨entry.1, (committed.agree.placed_iff entry.2 entry.1).2 there, ?_⟩
    rw [committed.moves.cells, found, there]
    rfl
  rw [isLegalAt_eq_ok_true_iff isBel' bound, violation?_eq_ok_none_iff isBel',
    voltageViolation?_of_committed_iff committed voltage, groupViolation?_of_shows shows,
    settingViolation?_of_shows shows, cascadeViolation?_of_shows shows tables]
  constructor
  · rintro ⟨agrees, _, _, _, served⟩
    exact ⟨agrees, served⟩
  · rintro ⟨agrees, served⟩
    exact ⟨agrees, group, setting, cascade, served⟩

end Admitted

/-- **What becomes of an accepted placement.**  When nobody has two places and the bels are empty or
held by members, all members arrive, in whatever order they are taken off and put on, and the audit has
an answer for every bel.  Each member is then legal exactly when it agrees with the members in its bank
and its lobe has the buffers; and if no driver of a clock net of these lobes is moved, all members are
legal exactly when those in one bank share their voltage. -/
theorem place?_legal_iff {device : Device} {netlist : Netlist} {plan : Plan}
    (reachable : Reachable device netlist plan) {cluster : Name} {bel : BelId}
    {placement : Placement} (placed : plan.place? cluster bel = .ok (some placement))
    (names : (placement.map Prod.fst).Nodup)
    (room : ∀ entry ∈ placement, ∀ name, plan.layout.cellOn[entry.2]? = some name →
      name ∈ placement.map Prod.fst)
    {leaving : List Name} {arriving : Placement} (all : leaving.Perm (placement.map Prod.fst))
    (same : arriving.Perm placement) :
    (∀ entry ∈ placement, (plan.commit leaving arriving).layout.belOf? entry.1 = some entry.2) ∧
      (∀ bel, ∃ verdict, (plan.commit leaving arriving).isLegalAt bel = .ok verdict) ∧
      (∀ entry ∈ placement, ∀ cell, plan.layout.cell? entry.1 = some cell →
        ((plan.commit leaving arriving).isLegalAt entry.2 = .ok true ↔
          plan.AgreesInBank placement cell entry.2 ∧
            (plan.commit leaving arriving).clockViolation? [] { cell with bel := some entry.2 }
              entry.2 = .ok none)) ∧
      (plan.DriversStay placement →
        ((∀ entry ∈ placement, (plan.commit leaving arriving).isLegalAt entry.2 = .ok true) ↔
          plan.SharesVoltages placement)) := by
  obtain ⟨agree, prepared⟩ := reachable.invariant
  have there := prepared.onDevice
  have admitted := admitted_of_place? placed
  have committed := committed_commit agree (admitted.makeable names room) all same
  have there' : ClockBuffer.OnDevice (plan.commit leaving arriving).device
      (plan.commit leaving arriving).fabric.tables.buffers := by
    have device : (plan.commit leaving arriving).device = plan.device := committed.moves.device
    rw [device, committed.moves.fabric]
    exact there
  have each : ∀ entry ∈ placement, ∀ cell, plan.layout.cell? entry.1 = some cell → _ :=
    fun entry member cell found => isLegalAt_of_committed_iff committed agree admitted member found
  refine ⟨committed.there, isLegalAt_total there', each, fun stay => ?_⟩
  rw [sharesVoltages_iff]
  constructor
  · intro legal entry member cell found
    exact ((each entry member cell found).1 (legal entry member)).1
  · intro shares entry member
    obtain ⟨cell, found, fits⟩ := admitted.fits entry member
    obtain ⟨fits, quiet⟩ := memberFits_eq_ok_true_iff.1 fits
    have served := ((violation?_eq_ok_none_iff (isBel_of_fits fits) placement).1 quiet).2.2.2.2
    exact (each entry member cell found).2 ⟨shares entry member cell found,
      clockViolation?_of_committed committed there stay member found served _⟩

end Plan

/-! ### A sample: a pad and its child, a pad of another voltage -/

namespace PairSample

open Sample (device fabric)

/-- A pad at 3.3V with a child. -/
def parent : Cell :=
  { Cell.bare "parent" "IOP" with
    params := (∅ : Std.ExtTreeMap Name Property).insert "standard" (.text "LVCMOS_3.3V")
    cluster := some "parent"
    children := ["child"] }

/-- Its child, a pad at 1.8V that belongs on the next bel. -/
def child : Cell :=
  { Cell.bare "child" "IOP" with
    params := (∅ : Std.ExtTreeMap Name Property).insert "standard" (.text "LVCMOS_1.8V")
    cluster := some "parent"
    offset := ⟨0, 0, 1⟩ }

def netlist : Netlist :=
  (Netlist.empty.setCell parent).setCell child

theorem named : netlist.Named :=
  (Netlist.named_empty.setCell parent).setCell child

def layout : Layout :=
  match Layout.ofNetlist device netlist with
  | .ok layout => layout
  | .error _ => ⟨device, netlist, ∅, ∅, ∅⟩

theorem placed : Layout.ofNetlist device netlist = .ok layout := by
  rfl

def plan : Plan :=
  (Plan.mk .fresh fabric layout).setUp.1

theorem started : Plan.Started device netlist plan :=
  .of_built named placed Sample.built .fresh fabric

def placement : Placement :=
  [("parent", ⟨0, 0⟩), ("child", ⟨0, 1⟩)]

theorem accepted : plan.place? "parent" ⟨0, 0⟩ = .ok (some placement) := by
  with_unfolding_all rfl

theorem distinct : (placement.map Prod.fst).Nodup := by decide

theorem room : ∀ entry ∈ placement, ∀ name, plan.layout.cellOn[entry.2]? = some name →
    name ∈ placement.map Prod.fst := by
  have empty : plan.layout.cellOn[(⟨0, 0⟩ : BelId)]? = none ∧
      plan.layout.cellOn[(⟨0, 1⟩ : BelId)]? = none := by
    decide +kernel
  simp [placement, empty]

theorem leaving : (["child", "parent"] : List Name).Perm (placement.map Prod.fst) := by
  decide

theorem arriving : ([("child", ⟨0, 1⟩), ("parent", ⟨0, 0⟩)] : Placement).Perm placement := by
  decide

/-- The sample has no nets, so no driver can move. -/
theorem driversStay : plan.DriversStay placement := by
  intro entry _ cell lobe _ _ net _ driver driven
  have nets : plan.layout.netlist.nets = ∅ := by
    with_unfolding_all rfl
  have nowhere : plan.net? net = none := by
    rw [Plan.net?, Layout.net?, Netlist.net?, nets]
    simp
  rw [nowhere] at driven
  cases driven

/-- The sample after its placement has been made, the child first. -/
theorem legal_of_childFirst_iff :
    (∀ entry ∈ placement, (plan.commit ["child", "parent"]
        [("child", ⟨0, 1⟩), ("parent", ⟨0, 0⟩)]).layout.belOf? entry.1 = some entry.2) ∧
      ((∀ entry ∈ placement, (plan.commit ["child", "parent"]
          [("child", ⟨0, 1⟩), ("parent", ⟨0, 0⟩)]).isLegalAt entry.2 = .ok true) ↔
        plan.SharesVoltages placement) := by
  obtain ⟨there, _, _, legal⟩ :=
    Plan.place?_legal_iff (.started started) accepted distinct room leaving arriving
  exact ⟨there, legal driversStay⟩

/-- The placement is accepted, and once it has been made, both pads are refused. -/
theorem sibling_voltages :
    Plan.Reachable device netlist plan ∧ plan.place? "parent" ⟨0, 0⟩ = .ok (some placement) ∧
      (placement.map Prod.fst).Nodup ∧
      (∀ entry ∈ placement, plan.layout.isFree entry.2 = true) ∧
      (plan.commit (placement.map Prod.fst) placement).isLegalAt ⟨0, 0⟩ = .ok false ∧
      (plan.commit (placement.map Prod.fst) placement).isLegalAt ⟨0, 1⟩ = .ok false :=
  ⟨.started started, accepted, distinct, by decide +kernel, by with_unfolding_all rfl,
    by with_unfolding_all rfl⟩

end PairSample

end UltraFabric
