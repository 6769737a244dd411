/-
# UltraFabric.Proofs.Exclusion — a bel is occupied or crossed, not both

A clock path leads through a bel only while the bel is empty.  From then on a generator or a loop is
reserved, and no cell fits on a reserved bel.  So whoever asks whether a cell fits, each time before
putting it on a bel, never puts one on a generator or a loop that is crossed, whatever is done in what
order, and a release gives the bels back only together with the pips (`Reserved`).

That is all that is guarded.  A bel of another type may be crossed as well, and is not reserved.  And a
bel that is crossed looks empty to a second net, which then crosses it over other wires: two nets never
share a wire, so their pips part at both ends (`Laid.ends_ne_of_through`).

Where a device leaves room for neither (`Device.Narrow`), bels are occupied or crossed by one net
(`crossings_of_permitted`).  `both_crossed_and_occupied` shows what happens elsewhere.
-/
import UltraFabric.Proofs.Tasks

namespace UltraFabric

set_option autoImplicit false

/-- Only generators and loops are crossed, and all pips that cross one bel begin at one wire or end at
one wire. -/
structure Device.Narrow (device : Device) : Prop where
  kinds : ∀ arc ∈ device.arcs, ∀ bel, arc.crossedBel? = some bel →
    ∃ kind : Bypass, (device.bel? bel).map BelInfo.type = some kind.type
  ends : ∀ arc ∈ device.arcs, ∀ other ∈ device.arcs, ∀ bel, arc.crossedBel? = some bel →
    other.crossedBel? = some bel → arc.source = other.source ∨ arc.target = other.target

namespace Plan

/-- A pip of a net leads through a bel. -/
structure Through (plan : Plan) (net : Name) (arc : Arc) (bel : BelId) : Prop where
  there : plan.device.arc? arc.pip = some arc
  crosses : arc.crossedBel? = some bel
  used : plan.layout.pipNet? arc.pip = some net

/-- Bels that are crossed are empty, and crossed by one net. -/
structure Exclusive (plan : Plan) : Prop where
  empty : ∀ net arc bel, plan.Through net arc bel → plan.layout.isFree bel = true
  single : ∀ net other arc otherArc bel, plan.Through net arc bel →
    plan.Through other otherArc bel → net = other

/-- Whether a task may be done: a cell is put on a bel only if it fits there. -/
def Permits (plan : Plan) : Task → Prop
  | .bind bel name => ∀ cell, plan.cell? name = some cell → plan.fits cell.type bel = true
  | _ => True

/-- Each task may be done when it is its turn. -/
def Permitted (plan : Plan) : List Task → Prop
  | [] => True
  | task :: rest => plan.Permits task ∧ (plan.perform task).Permitted rest

/-! ### Wires of different nets -/

theorem KeepsRouting.laid {before after : Plan} (kept : before.KeepsRouting after)
    (laid : before.Laid) : after.Laid := by
  have held : ∀ name wire, after.layout.hold? name wire = before.layout.hold? name wire := by
    intro name wire
    rw [Layout.hold?, Layout.hold?, kept.routing.net?]
  refine ⟨laid.agree.of_sameRouting kept.routing, fun name wire pip own => ?_,
    fun name wire pip own => ?_⟩
  · rw [held] at own
    exact (laid.fed name wire pip own).mono kept.device fun place driver => (held name place ▸ ·)
  · rw [held] at own
    rw [kept.reserved]
    exact laid.noted name wire pip own

theorem Laid.perform {plan : Plan} (laid : plan.Laid) (task : Task) : (plan.perform task).Laid := by
  rcases plan.perform_cases task with ⟨pass, rfl⟩ | kept
  · cases pass with
    | reserve => exact plan.reserves_reserveLowSkew.laid laid
    | release => exact laid.release.toLaid
    | unblock => exact ⟨laid.agree, laid.fed, laid.noted⟩
  · exact kept.laid laid

/-- **Pips of different nets neither begin nor end at one wire**, as both ends belong to the net. -/
theorem Laid.ends_ne_of_through {plan : Plan} (laid : plan.Laid) {net other : Name}
    {arc otherArc : Arc} {bel otherBel : BelId} (through : plan.Through net arc bel)
    (through' : plan.Through other otherArc otherBel) (different : net ≠ other) :
    arc.source ≠ otherArc.source ∧ arc.target ≠ otherArc.target := by
  have ends : ∀ {name : Name} {arc : Arc} {bel : BelId}, plan.Through name arc bel →
      (∃ pip, plan.layout.hold? name arc.source = some pip) ∧
        ∃ pip, plan.layout.hold? name arc.target = some pip := by
    intro name arc bel through
    obtain ⟨own, there, held⟩ := (laid.agree.pip_iff arc.pip name).1 through.used
    cases through.there.symm.trans there
    exact ⟨((laid.fed name arc.target _ held).source_of_driven there held).hold?, ⟨_, held⟩⟩
  obtain ⟨⟨_, source⟩, ⟨_, target⟩⟩ := ends through
  obtain ⟨⟨_, source'⟩, ⟨_, target'⟩⟩ := ends through'
  refine ⟨fun same => ?_, fun same => ?_⟩
  · rw [same] at source
    exact different (laid.agree.name_unique source source')
  · rw [same] at target
    exact different (laid.agree.name_unique target target')

/-! ### Generators and loops -/

/-- Generators and loops that are crossed are reserved, and empty. -/
def Reserved (plan : Plan) : Prop :=
  ∀ kind net bel, plan.Crosses kind net bel →
    (plan.crossed kind).contains bel = true ∧ plan.layout.isFree bel = true

theorem Reserved.of_same {before after : Plan} (reserved : before.Reserved)
    (same : before.SameCrossings after)
    (free : ∀ kind bel, (before.crossed kind).contains bel = true →
      before.layout.isFree bel = true → after.layout.isFree bel = true) : after.Reserved := by
  intro kind net bel crosses
  rw [same.crossed]
  obtain ⟨known, empty⟩ := reserved kind net bel (same.crosses_iff.1 crosses)
  exact ⟨known, free kind bel known empty⟩

/-- A bel that has been named stays named, and a pip names the bel that it leads through. -/
theorem contains_nameCrossed {plan : Plan} {net : Name} {arc : Arc} {kind : Bypass} {bel : BelId}
    (named : (plan.crossed kind).contains bel = true ∨ (arc.crossedBel? = some bel ∧
      (plan.device.bel? bel).map BelInfo.type = some kind.type)) :
    ((plan.nameCrossed net arc).crossed kind).contains bel = true := by
  rcases named with known | ⟨crosses, type⟩
  · rcases plan.crossed_nameCrossed net arc kind with same | ⟨place, _, _, same⟩
    · rw [same, known]
    · rw [same, Std.ExtTreeMap.contains_insert, known, Bool.or_true]
  · unfold nameCrossed
    simp only [crosses, type]
    cases kind with
    | generator =>
        simp only [Bypass.type]
        split
        · assumption
        · exact Std.ExtTreeMap.contains_insert_self
    | loop =>
        simp only [Bypass.type]
        split
        · assumption
        · exact Std.ExtTreeMap.contains_insert_self

/-- **A pip that leads through no occupied bel may be taken.** -/
theorem Reserved.reserveArc? {before after : Plan} {net : Name} {arc : Arc}
    (reserved : before.Reserved) (there : arc ∈ before.device.arcs)
    (free : before.crossingFree arc = true) (taken : before.reserveArc? net arc = some after) :
    after.Reserved := by
  have device := device_reserveArc? taken
  obtain ⟨bound, _⟩ := notes_reserveArc? taken
  obtain ⟨_, _, own, _, layout⟩ := Layout.bindArc?_eq_some_iff.1 bound
  have empty : after.layout.isFree = before.layout.isFree := by
    funext bel
    rw [Layout.isFree, Layout.isFree, (Layout.sameDesign_bindArc? bound).cellOn]
  have known : ∀ {kind : Bypass} {bel : BelId}, (before.crossed kind).contains bel = true ∨
      (arc.crossedBel? = some bel ∧ (before.device.bel? bel).map BelInfo.type = some kind.type) →
      (after.crossed kind).contains bel = true := by
    obtain ⟨between, same, crossed, rfl⟩ := reserveArc?_cases taken
    intro kind bel named
    rw [← same, ← crossed] at named
    exact contains_nameCrossed named
  rintro kind name bel ⟨type, other, there', crosses, used⟩
  rw [device] at type there'
  rw [empty]
  rw [Layout.pipNet?, layout, Layout.netOnPip_take] at used
  split at used
  · rename_i here
    rw [← Option.some.inj here, Device.mem_arcs_iff.1 there] at there'
    cases there'
    refine ⟨known (Or.inr ⟨crosses, type⟩), ?_⟩
    simpa only [crossingFree, crosses] using free
  · obtain ⟨old, empty⟩ := reserved kind name bel ⟨type, other, there', crosses, used⟩
    exact ⟨known (Or.inl old), empty⟩

/-- Where no wire is in use nothing is crossed. -/
theorem Reserved.of_free {plan : Plan} (agree : plan.layout.WiresAgree)
    (free : ∀ wire : WireId, plan.layout.netOnWire[wire]? = none) : plan.Reserved := by
  rintro kind net bel ⟨_, arc, _, _, used⟩
  obtain ⟨own, _, held⟩ := (agree.pip_iff arc.pip net).1 used
  rw [agree.hold?_of_free (free own.target)] at held
  cases held

theorem not_contains_of_fits {plan : Plan} {type : Name} {bel : BelId}
    (fits : plan.fits type bel = true) (kind : Bypass) : (plan.crossed kind).contains bel = false := by
  unfold Plan.fits fitsAs at fits
  split at fits
  · cases fits
  · rename_i unreserved
    rw [Bool.or_eq_true, not_or, Bool.not_eq_true, Bool.not_eq_true] at unreserved
    cases kind with
    | generator => exact unreserved.1
    | loop => exact unreserved.2

end Plan

namespace Layout

variable {layout after : Layout} {bel other : BelId} {name : Name}

theorem exists_cell_of_bindBel? (bound : layout.bindBel? bel name = some after) :
    ∃ cell, layout.cell? name = some cell := by
  cases found : layout.cell? name with
  | none =>
      rw [bindBel?_eq_none_iff.2 (Or.inr (Or.inr found))] at bound
      cases bound
  | some cell => exact ⟨cell, rfl⟩

/-- Putting a cell on a bel leaves other bels free. -/
theorem isFree_bindBel? (bound : layout.bindBel? bel name = some after) (apart : bel ≠ other)
    (free : layout.isFree other = true) : after.isFree other = true := by
  unfold bindBel? at bound
  split at bound
  · obtain ⟨cell, _, rfl⟩ := Option.map_eq_some_iff.1 bound
    rw [isFree_iff] at free ⊢
    simp only [Std.ExtTreeMap.getElem?_insert, Std.LawfulEqCmp.compare_eq_iff_eq, if_neg apart]
    split
    · rw [Std.ExtTreeMap.getElem?_erase]
      split
      · rfl
      · exact free
    · exact free
  · cases bound

theorem isFree_unbindBel? (unbound : layout.unbindBel? bel = some (name, after))
    (free : layout.isFree other = true) : after.isFree other = true := by
  obtain ⟨own, _, same⟩ := Option.map_eq_some_iff.1 unbound
  cases same
  rw [isFree_iff] at free ⊢
  simp only [Std.ExtTreeMap.getElem?_erase]
  split
  · rfl
  · exact free

end Layout

namespace Plan

/-- **Every task that may be done keeps crossed generators and loops empty.** -/
theorem Reserved.perform {plan : Plan} (reserved : plan.Reserved) (laid : plan.Laid) {task : Task}
    (permits : plan.Permits task) : (plan.perform task).Reserved := by
  cases task with
  | bind bel name =>
      refine reserved.of_same (plan.keepsRouting_bind bel name).sameCrossings ?_
      intro kind other known free
      obtain ⟨layout, occupancy, same, ⟨_, rfl⟩ | ⟨_, bound⟩⟩ := plan.bind_moves bel name
      · rw [Plan.perform, same]
        exact free
      · rw [Plan.perform, same]
        refine Layout.isFree_bindBel? bound ?_ free
        rintro rfl
        obtain ⟨cell, found⟩ := Layout.exists_cell_of_bindBel? bound
        rw [not_contains_of_fits (permits cell found) kind] at known
        cases known
  | unbind bel =>
      refine reserved.of_same (plan.keepsRouting_unbind bel).sameCrossings ?_
      intro kind other _ free
      obtain ⟨layout, occupancy, same, rfl | ⟨name, unbound⟩⟩ := plan.unbind_moves bel
      · rw [Plan.perform, same]
        exact free
      · rw [Plan.perform, same]
        exact Layout.isFree_unbindBel? unbound free
  | applyRecords records =>
      refine reserved.of_same (plan.keepsRouting_applyRecords records).sameCrossings ?_
      intro kind other _ free
      rw [Plan.perform, Layout.isFree, (plan.keepsPlaces_applyRecords records).cellOn]
      exact free
  | pass pass =>
      cases pass with
      | reserve =>
          refine LowSkewPass.keeps_reserveLowSkew (fun _ taken kept => ?_)
            (fun there free taken kept => kept.reserveArc? there free taken) reserved
          refine kept.of_same (sameCrossings_reserveSource? taken) fun _ bel _ free => ?_
          obtain ⟨layout, bound, rfl⟩ := Option.map_eq_some_iff.1 taken
          rw [Layout.isFree] at free ⊢
          rw [← free]
          exact congrArg (fun cellOn => ! cellOn.contains bel)
            (Layout.sameDesign_bindWire? bound).cellOn
      | release => exact .of_free laid.release.agree laid.free_of_release
      | unblock => exact reserved.of_same plan.sameCrossings_unblock fun _ _ _ free => free

theorem performAll_reserved (tasks : List Task) :
    ∀ {plan : Plan}, plan.Laid → plan.Reserved → plan.Permitted tasks →
      (plan.performAll tasks).Laid ∧ (plan.performAll tasks).Reserved := by
  induction tasks with
  | nil => exact fun laid reserved _ => ⟨laid, reserved⟩
  | cons task rest ih =>
      intro plan laid reserved permitted
      exact ih (laid.perform task) (reserved.perform laid permitted.1) permitted.2

theorem Through.crosses_of_kind {plan : Plan} {net : Name} {arc : Arc} {bel : BelId}
    (through : plan.Through net arc bel) {kind : Bypass}
    (type : (plan.device.bel? bel).map BelInfo.type = some kind.type) :
    plan.Crosses kind net bel :=
  ⟨type, arc, through.there, through.crosses, through.used⟩

/-- On a narrow device nothing else can be crossed, and nets cannot part at both ends. -/
theorem exclusive_of_narrow {plan : Plan} (narrow : plan.device.Narrow) (laid : plan.Laid)
    (reserved : plan.Reserved) : plan.Exclusive where
  empty := by
    intro net arc bel through
    obtain ⟨kind, type⟩ :=
      narrow.kinds arc (Device.mem_arcs_iff.2 through.there) bel through.crosses
    exact (reserved kind net bel (through.crosses_of_kind type)).2
  single := by
    intro net other arc otherArc bel through through'
    refine Decidable.byContradiction fun different => ?_
    obtain ⟨source, target⟩ := laid.ends_ne_of_through through through' different
    rcases narrow.ends arc (Device.mem_arcs_iff.2 through.there) otherArc
      (Device.mem_arcs_iff.2 through'.there) bel through.crosses through'.crosses with
      together | together
    · exact source together
    · exact target together

/-- **What may cross, and what may be occupied.**  A design has been started and none of its nets has a
wire.  Then clock paths are reserved and given back, cells are taken off bels, and cells are put on
bels on which they fit at the time, in any order; each of it may be refused or end early.  A generator
or a loop that is crossed is reserved then, and empty.  Two nets that cross one bel cross it between
different wires.  So if only generators and loops can be crossed, and no bel between different wires,
then all bels that are crossed are empty, and crossed by one net. -/
theorem crossings_of_permitted {device : Device} {netlist : Netlist} {plan : Plan}
    (started : Started device netlist plan)
    (bare : ∀ name net, netlist.net? name = some net → net.wires = ∅) (tasks : List Task)
    (permitted : plan.Permitted tasks) :
    (∀ kind net bel, (plan.performAll tasks).Crosses kind net bel →
      ((plan.performAll tasks).crossed kind).contains bel = true ∧
        (plan.performAll tasks).layout.isFree bel = true) ∧
    (∀ net other arc otherArc bel, (plan.performAll tasks).Through net arc bel →
      (plan.performAll tasks).Through other otherArc bel → net ≠ other →
        arc.source ≠ otherArc.source ∧ arc.target ≠ otherArc.target) ∧
    (device.Narrow → (plan.performAll tasks).Exclusive) := by
  obtain ⟨wires, pips⟩ := started.unbound
  have agree : plan.layout.WiresAgree := by
    refine .of_unrouted (fun name net found => bare name net ?_) wires pips
    obtain ⟨_, _, same⟩ := Layout.BelsAgree.ofNetlist started.named started.placed
    rw [← same]
    exact found
  have free : ∀ wire : WireId, plan.layout.netOnWire[wire]? = none := fun wire => by
    rw [wires]
    simp
  obtain ⟨laid, reserved⟩ :=
    performAll_reserved tasks (Grown.of_free agree free).toLaid (.of_free agree free) permitted
  have same : (plan.performAll tasks).device = device :=
    (device_performAll tasks plan).trans started.device
  exact ⟨reserved, fun net other arc otherArc bel through through' different =>
    laid.ends_ne_of_through through through' different,
    fun narrow => exclusive_of_narrow (same ▸ narrow) laid reserved⟩

end Plan

/-! ### A sample: a clock on a narrow device -/

namespace CrossingSample

/-- The sample with its tables. -/
def prepared : Plan :=
  (Plan.mk .fresh fabric layout).setUp.1

theorem started : Plan.Started device netlist prepared := by
  have named : netlist.Named := ((Netlist.named_empty.setCell _).setCell _).setNet _
  have placed : Layout.ofNetlist device netlist = .ok layout := by rfl
  have built : ClockBuffer.byLobe device (TileNames.ofChip chip) = .ok ∅ := by
    with_unfolding_all rfl
  exact .of_built named placed built .fresh fabric

theorem bare : ∀ name net, netlist.net? name = some net → net.wires = ∅ := by
  intro name net found
  simp only [netlist, Netlist.net?, Netlist.setNet, Std.ExtTreeMap.getElem?_insert] at found
  split at found
  · cases found
    rfl
  · simp [Netlist.setCell, Netlist.empty] at found

theorem narrow : device.Narrow := by
  have arcs : device.arcs =
      [⟨⟨0, 0⟩, ⟨0, 0⟩, ⟨0, 1⟩, ⟨0, 1, 0, some ⟨"W0.BYPASS", 0, .bypass, some 1⟩⟩⟩,
        ⟨⟨0, 1⟩, ⟨0, 1⟩, ⟨0, 2⟩, ⟨1, 2, 0, some ⟨"W1.BYPASS", 0, .bypass, some 2⟩⟩⟩] := by
    decide +kernel
  refine ⟨?_, ?_⟩
  · rw [arcs]
    simp only [List.forall_mem_cons]
    refine ⟨?_, ?_, by simp⟩
    · rintro bel ⟨⟩
      exact ⟨.generator, by decide⟩
    · rintro bel ⟨⟩
      exact ⟨.generator, by decide⟩
  · rw [arcs]
    simp [Arc.crossedBel?, PipInfo.crossedBel?]

/-- The clock is routed, the loop is taken away and put back, and the clock is routed again. -/
def tasks : List Task :=
  [.pass .reserve, .unbind ⟨0, 3⟩, .bind ⟨0, 3⟩ "loop", .pass .release, .pass .reserve]

theorem permitted : prepared.Permitted tasks := by
  have type : ((prepared.performAll [.pass .reserve, .unbind ⟨0, 3⟩]).cell? "loop").map Cell.type =
      some "PLL" := by
    decide +kernel
  refine ⟨trivial, trivial, fun cell found => ?_, trivial, trivial, trivial⟩
  have own : (some cell).map Cell.type = some "PLL" := found ▸ type
  rw [Option.some.inj own]
  decide +kernel

/-- The sample after these tasks. -/
theorem exclusive_of_tasks :
    (∀ name net, netlist.net? name = some net → net.wires = ∅) ∧ prepared.Permitted tasks ∧
    (∀ kind net bel, (prepared.performAll tasks).Crosses kind net bel →
      ((prepared.performAll tasks).crossed kind).contains bel = true ∧
        (prepared.performAll tasks).layout.isFree bel = true) ∧
    (∀ net other arc otherArc bel, (prepared.performAll tasks).Through net arc bel →
      (prepared.performAll tasks).Through other otherArc bel → net ≠ other →
        arc.source ≠ otherArc.source ∧ arc.target ≠ otherArc.target) ∧
    device.Narrow ∧ (prepared.performAll tasks).Exclusive := by
  obtain ⟨kept, apart, exclusive⟩ := Plan.crossings_of_permitted started bare tasks permitted
  exact ⟨bare, permitted, kept, apart, narrow, exclusive narrow⟩

end CrossingSample

/-! ### A sample: two clocks through one generator -/

namespace SharedSample

/-- The first pad reaches the first loop through a buffer `X` and then through the generator, the
second pad the second loop through the same generator. -/
def tileType : TileType :=
  ⟨"T", #[⟨"A", "IOP", 0, 0, [⟨"O", 0, .output⟩], none, none⟩,
      ⟨"B", "IOP", 1, 0, [⟨"O", 1, .output⟩], none, none⟩, ⟨"W", "WFG", 2, 0, [], none, none⟩,
      ⟨"P", "PLL", 3, 0, [⟨"REF", 2, .input⟩], none, none⟩,
      ⟨"Q", "PLL", 4, 0, [⟨"REF", 3, .input⟩], none, none⟩, ⟨"X", "WFB", 5, 0, [], none, none⟩],
    #[⟨"A.O", "", 0⟩, ⟨"B.O", "", 0⟩, ⟨"P.REF", "", 0⟩, ⟨"Q.REF", "", 0⟩, ⟨"ring", "", 1⟩],
    #[⟨0, 4, 0, some ⟨"X.BYPASS", 0, .bypass, some 5⟩⟩,
      ⟨4, 2, 0, some ⟨"W.BYPASS", 0, .bypass, some 2⟩⟩,
      ⟨1, 3, 0, some ⟨"W.BYPASS", 1, .bypass, some 2⟩⟩], #[]⟩

def chip : Chip :=
  ⟨"shared", 1, 1, #[tileType], #[⟨0, some ⟨"IOB0", some 0⟩⟩], [], []⟩

def device : Device :=
  ⟨chip, by decide +kernel, Indexes.ofChip chip, rfl⟩

def driver (name net : Name) (bel : BelId) : Cell :=
  { Cell.bare name "IOP" with
    ports := (∅ : Std.ExtTreeMap Name Port).insert "O" ⟨.output, some net⟩
    bel := some bel }

def sink (name net : Name) (bel : BelId) : Cell :=
  { Cell.bare name "PLL" with
    ports := (∅ : Std.ExtTreeMap Name Port).insert "REF" ⟨.input, some net⟩
    bel := some bel }

/-- Two clocks, and a buffer that is not placed. -/
def netlist : Netlist :=
  let cells := [driver "x" "a" ⟨0, 0⟩, driver "y" "b" ⟨0, 1⟩, sink "p" "a" ⟨0, 3⟩,
    sink "q" "b" ⟨0, 4⟩, Cell.bare "buffer" "WFB"]
  ((cells.foldl Netlist.setCell .empty).setNet ⟨"a", some ⟨"x", "O"⟩, [⟨"p", "REF"⟩], ∅⟩).setNet
    ⟨"b", some ⟨"y", "O"⟩, [⟨"q", "REF"⟩], ∅⟩

def layout : Layout :=
  (Layout.ofNetlist device netlist).toOption.getD ⟨device, netlist, ∅, ∅, ∅⟩

def fabric : Fabric :=
  Fabric.ofOptions ⟨.firstFit, 8, 120, 18, 22, 40, 10, true⟩
    ⟨(∅ : Std.ExtTreeMap PrimitivePort SinkTier).insert ⟨"PLL", "REF"⟩ .ring, ∅⟩

def plan : Plan :=
  (Plan.mk .fresh fabric layout).setUp.1

theorem started : Plan.Started device netlist plan := by
  have named : netlist.Named :=
    ((((((Netlist.named_empty.setCell _).setCell _).setCell _).setCell _).setCell _).setNet _).setNet _
  have placed : Layout.ofNetlist device netlist = .ok layout := by rfl
  have built : ClockBuffer.byLobe device (TileNames.ofChip chip) = .ok ∅ := by
    with_unfolding_all rfl
  exact .of_built named placed built .fresh fabric

theorem bare : ∀ name net, netlist.net? name = some net → net.wires = ∅ := by
  intro name net found
  simp only [netlist, Netlist.net?, Netlist.setNet, Std.ExtTreeMap.getElem?_insert] at found
  split at found
  · cases found
    rfl
  · split at found
    · cases found
      rfl
    · simp [Netlist.setCell, Netlist.empty] at found

/-- Clock paths are reserved, and the buffer is placed. -/
def tasks : List Task :=
  [.pass .reserve, .bind ⟨0, 5⟩ "buffer"]

theorem permitted : plan.Permitted tasks := by
  have type : ((plan.perform (.pass .reserve)).cell? "buffer").map Cell.type = some "WFB" := by
    decide +kernel
  refine ⟨trivial, fun cell found => ?_, trivial⟩
  rw [found] at type
  rw [Option.some.inj type]
  decide +kernel

/-- The pips that lead through the buffer and, twice, through the generator. -/
def first : Arc := ⟨⟨0, 0⟩, ⟨0, 0⟩, ⟨0, 4⟩, ⟨0, 4, 0, some ⟨"X.BYPASS", 0, .bypass, some 5⟩⟩⟩

def second : Arc := ⟨⟨0, 1⟩, ⟨0, 4⟩, ⟨0, 2⟩, ⟨4, 2, 0, some ⟨"W.BYPASS", 0, .bypass, some 2⟩⟩⟩

def third : Arc := ⟨⟨0, 2⟩, ⟨0, 1⟩, ⟨0, 3⟩, ⟨1, 3, 0, some ⟨"W.BYPASS", 1, .bypass, some 2⟩⟩⟩

/-- Both clocks lead through the generator, and the buffer is occupied although the first one leads
through it. -/
theorem both_crossed_and_occupied :
    Plan.Started device netlist plan ∧
      (∀ name net, netlist.net? name = some net → net.wires = ∅) ∧ plan.Permitted tasks ∧
      (plan.performAll tasks).Through "a" second ⟨0, 2⟩ ∧
      (plan.performAll tasks).Through "b" third ⟨0, 2⟩ ∧
      (plan.performAll tasks).Through "a" first ⟨0, 5⟩ ∧
      (plan.performAll tasks).layout.isFree ⟨0, 5⟩ = false ∧
      ¬ (plan.performAll tasks).Exclusive := by
  have shared : (plan.performAll tasks).Through "a" second ⟨0, 2⟩ :=
    ⟨by decide +kernel, by decide, by decide +kernel⟩
  have shared' : (plan.performAll tasks).Through "b" third ⟨0, 2⟩ :=
    ⟨by decide +kernel, by decide, by decide +kernel⟩
  have crossed : (plan.performAll tasks).Through "a" first ⟨0, 5⟩ :=
    ⟨by decide +kernel, by decide, by decide +kernel⟩
  have occupied : (plan.performAll tasks).layout.isFree ⟨0, 5⟩ = false := by decide +kernel
  refine ⟨started, bare, permitted, shared, shared', crossed, occupied, fun exclusive => ?_⟩
  have same := exclusive.single _ _ _ _ _ shared shared'
  exact absurd same (by decide)

end SharedSample

end UltraFabric
