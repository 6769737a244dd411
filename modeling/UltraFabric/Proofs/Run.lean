/-
# UltraFabric.Proofs.Run — a plan that is worked on

A plan starts when the tables of its device have been filled for a netlist that has been placed as it
says (`Plan.Started`).  From there cells are put on bels and taken off, records are applied, nets get
wires and pips, and names are mentioned (`Operation`), in any order and whether or not the plan agrees
(`Plan.run`).

Two things are asked of the operations of a run: that cells are only put on bels of the device
(`OnDevice`), and, where voltages are concerned, that no records are applied (`LeavesPads`).

* `Started.consistent`: at the start the counts are those of the placed cells;
* `Consistent.after`, `Consistent.run`: one operation that leaves the pads keeps them right, and so
  does a run of them;
* `Prepared.run`: the tables stay those of the device;
* `counts_of_run`: after a run every count is the number of pins, or of pads, that it stands for, and
  filling the tables once more finds the same counts.
-/
import UltraFabric.Proofs.Census
import UltraFabric.Proofs.Records
import UltraFabric.Proofs.Wires

namespace UltraFabric

set_option autoImplicit false

/-- What may be done to a plan. -/
inductive Operation where
  | bind (bel : BelId) (name : Name)
  | unbind (bel : BelId)
  | applyRecords (records : List ConfigRecord)
  | bindWire (wire : WireId) (net : Name)
  | bindPip (pip : PipId) (net : Name)
  | unbindWire (wire : WireId)
  | mention (name : Name)

namespace Operation

/-- Cells are put on bels of the device only. -/
def OnDevice (device : Device) : Operation → Prop
  | bind bel _ => device.isBel bel = true
  | _ => True

/-- No record is applied. -/
def LeavesPads : Operation → Prop
  | applyRecords _ => False
  | _ => True

end Operation

/-- **A location is the name of its bel.** -/
theorem Tables.padName_of_padsOf {device : Device} {tiles : TileNames} {location : String}
    {bel : BelId} (known : (padsOf device tiles)[location]? = some bel) :
    ∃ info, device.bel? bel = some info ∧ padName tiles bel info = location := by
  refine List.foldlRecOn (motive := fun pads : Std.ExtTreeMap String BelId => ∀ location bel,
    pads[location]? = some bel →
      ∃ info, device.bel? bel = some info ∧ padName tiles bel info = location)
    _ _ ?_ ?_ location bel known
  · intro location bel known
    simp at known
  rintro pads known ⟨pad, info⟩ member location bel found
  have there : device.bel? pad = some info := Chip.mem_enumerate_iff.1 (List.mem_filter.1 member).1
  simp only [Std.ExtTreeMap.getElem?_insert] at found
  split at found
  · rename_i here
    rw [Std.LawfulEqCmp.compare_eq_iff_eq] at here
    cases found
    exact ⟨info, there, here⟩
  · exact known location bel found

namespace Plan

/-- A plan with another layout, if there is one. -/
def withLayout? (plan : Plan) (layout : Option Layout) : Plan :=
  { plan with layout := layout.getD plan.layout }

/-- The plan after an operation.  An operation that is refused may still have an effect. -/
def after (plan : Plan) : Operation → Plan
  | .bind bel name => (plan.bind bel name).2
  | .unbind bel => (plan.unbind bel).2
  | .applyRecords records => (plan.applyRecords records).1
  | .bindWire wire net => plan.withLayout? (plan.layout.bindWire? wire net)
  | .bindPip pip net => plan.withLayout? (plan.layout.bindPip? pip net).toOption.join
  | .unbindWire wire => { plan with layout := plan.layout.unbindWire wire }
  | .mention name => plan.mention name

/-- The plan after some operations, one by one. -/
def run (plan : Plan) (operations : List Operation) : Plan :=
  operations.foldl after plan

theorem run_append (plan : Plan) (first second : List Operation) :
    plan.run (first ++ second) = (plan.run first).run second :=
  List.foldl_append

/-! ### What an operation does to cells and counts -/

/-- What happens in the layout only, and not to its cells, moves nothing and counts nothing. -/
theorem keepsPlaces_of_sameCells {plan : Plan} {layout : Layout}
    (same : plan.layout.SameCells layout) : plan.KeepsPlaces { plan with layout } where
  device := same.device
  cellOn := same.cellOn
  cells name := congrArg (Option.map unset) (same.cell? name)
  clocks := rfl
  tables := rfl
  occupancy := rfl

theorem sameCells_withLayout? (plan : Plan) {layout : Option Layout}
    (same : ∀ after, layout = some after → plan.layout.SameCells after) :
    plan.layout.SameCells (plan.withLayout? layout).layout := by
  cases layout with
  | none => exact ⟨rfl, rfl, rfl⟩
  | some after => exact same after rfl

/-- **Whatever is neither putting on nor taking off** moves no cell and counts nothing.  Only records
touch the cells at all. -/
theorem after_cases (plan : Plan) (operation : Operation) :
    (∃ bel name, operation = .bind bel name) ∨ (∃ bel, operation = .unbind bel) ∨
      (plan.KeepsPlaces (plan.after operation) ∧ (operation.LeavesPads →
        ∀ name, (plan.after operation).layout.cell? name = plan.layout.cell? name)) := by
  have routed : ∀ layout, plan.layout.SameCells layout →
      plan.KeepsPlaces { plan with layout } ∧
        ∀ name, layout.cell? name = plan.layout.cell? name :=
    fun layout same => ⟨keepsPlaces_of_sameCells same, same.cell?⟩
  cases operation with
  | bind bel name => exact Or.inl ⟨bel, name, rfl⟩
  | unbind bel => exact Or.inr (Or.inl ⟨bel, rfl⟩)
  | applyRecords records =>
      exact Or.inr (Or.inr ⟨plan.keepsPlaces_applyRecords records, fun impossible => impossible.elim⟩)
  | bindWire wire net =>
      have same : plan.layout.SameCells
          (plan.withLayout? (plan.layout.bindWire? wire net)).layout :=
        plan.sameCells_withLayout? fun _ bound =>
          (Layout.sameDesign_bindWire? bound).toSameCells
      exact Or.inr (Or.inr ((routed _ same).imp_right fun same _ => same))
  | bindPip pip net =>
      have same : plan.layout.SameCells
          (plan.withLayout? (plan.layout.bindPip? pip net).toOption.join).layout := by
        refine plan.sameCells_withLayout? fun after bound => ?_
        cases answer : plan.layout.bindPip? pip net with
        | error fault =>
            rw [answer] at bound
            cases bound
        | ok layout =>
            rw [answer] at bound
            have placed := answer.trans (congrArg Except.ok bound)
            exact (Layout.sameDesign_bindPip? placed).toSameCells
      exact Or.inr (Or.inr ((routed _ same).imp_right fun same _ => same))
  | unbindWire wire =>
      have same := (plan.layout.sameDesign_unbindWire wire).toSameCells
      exact Or.inr (Or.inr ((routed _ same).imp_right fun same _ => same))
  | mention name => exact Or.inr (Or.inr ⟨plan.keepsPlaces_mention name, fun _ _ => rfl⟩)

/-! ### One operation and many -/

/-- Device, clock ports and tables are the same. -/
structure SameTables (before after : Plan) : Prop where
  device : after.device = before.device
  clocks : after.fabric.clocks = before.fabric.clocks
  tables : after.fabric.tables = before.fabric.tables

theorem SameTables.trans {before between after : Plan} (first : before.SameTables between)
    (second : between.SameTables after) : before.SameTables after :=
  ⟨second.device.trans first.device, second.clocks.trans first.clocks,
    second.tables.trans first.tables⟩

theorem KeepsPlaces.sameTables {before after : Plan} (kept : before.KeepsPlaces after) :
    before.SameTables after :=
  ⟨kept.device, kept.clocks, kept.tables⟩

theorem sameTables_unbind {plan : Plan} (agree : plan.layout.BelsAgree) (bel : BelId) :
    plan.SameTables (plan.unbind bel).2 := by
  rcases unbind_cases agree bel with ⟨_, same⟩ | ⟨cell, _, same⟩
  · rw [same]
    exact ⟨rfl, rfl, rfl⟩
  · rw [same]
    exact ⟨rfl, rfl, rfl⟩

theorem sameTables_bind {plan : Plan} {bel : BelId} (agree : plan.layout.BelsAgree)
    (isBel : plan.layout.device.isBel bel = true) (name : Name) :
    plan.SameTables (plan.bind bel name).2 := by
  rcases bind_cases agree isBel name with
    same | ⟨_, cell, _, _, _, same⟩ | ⟨_, old, cell, _, _, same⟩
  all_goals
    rw [same]
    exact ⟨rfl, rfl, rfl⟩

/-- What an operation keeps, whether or not it applies records: cells and bels name each other, the
clock counts are right, and the tables stay. -/
theorem agree_after {plan : Plan} (consistent : plan.Consistent) (operation : Operation)
    (onDevice : operation.OnDevice plan.device) :
    (plan.after operation).layout.BelsAgree ∧
      (plan.after operation).fabric.occupancy.clocks.Holds (plan.after operation).allClockUses ∧
      plan.SameTables (plan.after operation) := by
  rcases plan.after_cases operation with ⟨bel, name, rfl⟩ | ⟨bel, rfl⟩ | ⟨kept, _⟩
  · have moved := consistent.bind onDevice name
    exact ⟨moved.agree, moved.counted.clocks, sameTables_bind consistent.agree onDevice name⟩
  · have moved := consistent.unbind bel
    exact ⟨moved.agree, moved.counted.clocks, sameTables_unbind consistent.agree bel⟩
  · exact ⟨kept.agree consistent.agree, kept.holds_clocks consistent.counted.clocks,
      kept.sameTables⟩

/-- **One operation that leaves the pads keeps the counts right.** -/
theorem Consistent.after {plan : Plan} (consistent : plan.Consistent) (operation : Operation)
    (onDevice : operation.OnDevice plan.device) (leaves : operation.LeavesPads) :
    (plan.after operation).Consistent := by
  rcases plan.after_cases operation with ⟨bel, name, rfl⟩ | ⟨bel, rfl⟩ | ⟨kept, same⟩
  · exact consistent.bind onDevice name
  · exact consistent.unbind bel
  · exact kept.consistent (same leaves) consistent

/-- **And so does a run of them.** -/
theorem Consistent.run (operations : List Operation) :
    ∀ {plan : Plan}, plan.Consistent →
      (∀ operation ∈ operations, operation.OnDevice plan.device ∧ operation.LeavesPads) →
      (plan.run operations).Consistent ∧ plan.SameTables (plan.run operations) := by
  induction operations with
  | nil =>
      intro plan consistent _
      exact ⟨consistent, rfl, rfl, rfl⟩
  | cons operation rest ih =>
      intro plan consistent moves
      obtain ⟨onDevice, leaves⟩ := moves operation List.mem_cons_self
      have kept := consistent.after operation onDevice leaves
      obtain ⟨_, _, same⟩ := agree_after consistent operation onDevice
      have later : ∀ other ∈ rest,
          other.OnDevice (plan.after operation).device ∧ other.LeavesPads := by
        intro other member
        rw [same.device]
        exact moves other (List.mem_cons_of_mem _ member)
      obtain ⟨consistent', same'⟩ := ih kept later
      exact ⟨consistent', same.trans same'⟩

/-! ### The start -/

/-- The tables of a plan are those of its device. -/
def Prepared (plan : Plan) : Prop :=
  ∃ buffers, ClockBuffer.byLobe plan.device (TileNames.ofChip plan.device.chip) = .ok buffers ∧
    plan.fabric.tables = Tables.ofDevice plan.device (TileNames.ofChip plan.device.chip) buffers

theorem SameTables.prepared {before after : Plan} (same : before.SameTables after)
    (prepared : before.Prepared) : after.Prepared := by
  rw [Prepared, same.device, same.tables]
  exact prepared

/-- The plan with the tables of its device, before anything is counted. -/
def filled (plan : Plan) (buffers : Std.ExtTreeMap Nat (List ClockBuffer)) : Plan :=
  { plan with
    lexicon := plan.lexicon.mentionAll (TileNames.ofChip plan.device.chip).names.toList
    fabric := { plan.fabric with
      tables := Tables.ofDevice plan.device (TileNames.ofChip plan.device.chip) buffers } }

theorem setUp_of_built {plan : Plan} {buffers : Std.ExtTreeMap Nat (List ClockBuffer)}
    (built : ClockBuffer.byLobe plan.device (TileNames.ofChip plan.device.chip) = .ok buffers) :
    plan.setUp = ({ plan.filled buffers with
        fabric := { (plan.filled buffers).fabric with
          occupancy := (plan.filled buffers).recount } },
      .ok (plan.filled buffers).fabric.tables.sizes) := by
  unfold setUp
  simp only [built]
  rfl

theorem prepared_setUp {plan : Plan} {sizes : TableSizes} (done : plan.setUp.2 = .ok sizes) :
    plan.setUp.1.Prepared ∧ plan.setUp.1.layout = plan.layout ∧
      plan.setUp.1.fabric.occupancy = plan.setUp.1.recount := by
  cases built : ClockBuffer.byLobe plan.device (TileNames.ofChip plan.device.chip) with
  | error missing =>
      simp only [setUp, built] at done
      cases done
  | ok buffers =>
      rw [setUp_of_built built]
      exact ⟨⟨buffers, built, rfl⟩, rfl, rfl⟩

/-- Filling the tables once more finds the same tables, and counts anew. -/
theorem setUp_of_prepared {plan : Plan} (prepared : plan.Prepared) :
    plan.setUp.2 = .ok plan.fabric.tables.sizes ∧ plan.setUp.1.fabric.occupancy = plan.recount := by
  obtain ⟨buffers, built, tables⟩ := prepared
  have same : plan.filled buffers = { plan with
      lexicon := plan.lexicon.mentionAll (TileNames.ofChip plan.device.chip).names.toList } := by
    rw [filled, ← tables]
  rw [setUp_of_built built, same]
  exact ⟨rfl, rfl⟩

/-- A plan whose tables have just been filled, for a netlist that is placed as it says.  Everything
the architecture knew or remembered before may be anything. -/
inductive Started (device : Device) (netlist : Netlist) : Plan → Prop where
  | setUp {lexicon : Lexicon} {fabric : Fabric} {layout : Layout} {sizes : TableSizes}
      (named : netlist.Named) (placed : Layout.ofNetlist device netlist = .ok layout)
      (done : (Plan.mk lexicon fabric layout).setUp.2 = .ok sizes) :
      Started device netlist (Plan.mk lexicon fabric layout).setUp.1

/-- A placed netlist is started when the buffers of the device are known. -/
theorem Started.of_built {device : Device} {netlist : Netlist} {layout : Layout}
    {buffers : Std.ExtTreeMap Nat (List ClockBuffer)} (named : netlist.Named)
    (placed : Layout.ofNetlist device netlist = .ok layout)
    (built : ClockBuffer.byLobe device (TileNames.ofChip device.chip) = .ok buffers)
    (lexicon : Lexicon) (fabric : Fabric) :
    Started device netlist (Plan.mk lexicon fabric layout).setUp.1 := by
  have own : (Plan.mk lexicon fabric layout).device = device :=
    (Layout.BelsAgree.ofNetlist named placed).2.1
  rw [← own] at built
  exact .setUp named placed (congrArg Prod.snd (setUp_of_built built))

theorem Started.named {device : Device} {netlist : Netlist} {plan : Plan}
    (started : Started device netlist plan) : netlist.Named := by
  cases started with
  | setUp named placed done => exact named

/-- Filling the tables moves nothing. -/
theorem Started.placed {device : Device} {netlist : Netlist} {plan : Plan}
    (started : Started device netlist plan) : Layout.ofNetlist device netlist = .ok plan.layout := by
  cases started with
  | setUp named placed done =>
      obtain ⟨_, same, _⟩ := prepared_setUp done
      rw [same]
      exact placed

theorem Started.device {device : Device} {netlist : Netlist} {plan : Plan}
    (started : Started device netlist plan) : plan.device = device :=
  (Layout.BelsAgree.ofNetlist started.named started.placed).2.1

section Started

variable {device : Device} {netlist : Netlist} {plan : Plan}

theorem Started.prepared (started : Started device netlist plan) : plan.Prepared := by
  cases started with
  | setUp named placed done => exact (prepared_setUp done).1

/-- At the start the counts are those of the placed cells. -/
theorem Started.consistent (started : Started device netlist plan) : plan.Consistent := by
  cases started with
  | setUp named placed done =>
      obtain ⟨_, same, counted⟩ := prepared_setUp done
      obtain ⟨agree, _, _⟩ := Layout.BelsAgree.ofNetlist named placed
      obtain ⟨clocks, voltages⟩ := holds_recount (Plan.mk _ _ _).setUp.1
      rw [← counted] at clocks voltages
      refine ⟨?_, clocks, voltages⟩
      rw [same]
      exact agree

/-- **The counts are numbers.**  After any run of operations that leave the pads, every count is the
number of clock pins, or of pads, that it stands for; so filling the tables once more succeeds and
finds the same counts. -/
theorem counts_of_run (started : Started device netlist plan) (operations : List Operation)
    (moves : ∀ operation ∈ operations, operation.OnDevice device ∧ operation.LeavesPads) :
    (∀ lobe net, (plan.run operations).fabric.occupancy.clocks.count lobe net =
        {pin | (plan.run operations).ClockedAt lobe net pin}.ncard) ∧
      (∀ bank voltage, (plan.run operations).fabric.occupancy.voltages.count bank voltage =
        {bel | (plan.run operations).ImposedAt bank voltage bel}.ncard) ∧
      (∃ sizes, (plan.run operations).setUp.2 = .ok sizes) ∧
      (plan.run operations).setUp.1.fabric.occupancy = (plan.run operations).fabric.occupancy := by
  rw [← started.device] at moves
  obtain ⟨consistent, same⟩ := Consistent.run operations started.consistent moves
  obtain ⟨succeeds, recounted⟩ := setUp_of_prepared (same.prepared started.prepared)
  refine ⟨fun lobe net => ?_, fun bank voltage => ?_, ⟨_, succeeds⟩, ?_⟩
  · rw [consistent.counted.clocks lobe net, count_allClockUses]
  · rw [consistent.counted.voltages bank voltage, count_allVoltageUses]
  · rw [recounted, consistent.counted.eq_recount]

end Started

end Plan

/-! ### A sample: two pads and a flip-flop in one tile -/

namespace Sample

/-- Two pads, a clock buffer and two flip-flops. -/
def tileType : TileType :=
  ⟨"IOB", #[⟨"P0", "IOP", 0, 0, [], none, none⟩, ⟨"P1", "IOP", 1, 0, [], none, none⟩,
    ⟨"G", "GCK", 2, 0, [], none, none⟩, ⟨"F0", "DFR", 3, 0, [], none, none⟩,
    ⟨"F1", "DFR", 4, 0, [], none, none⟩], #[], #[], #[]⟩

def chip : Chip :=
  ⟨"sample", 1, 1, #[tileType], #[⟨0, some ⟨"IOB0", some 0⟩⟩], [], []⟩

def device : Device :=
  ⟨chip, by decide, Indexes.ofChip chip, rfl⟩

/-- A pad at 3.3V that drives the clock. -/
def leftPad : Cell :=
  { Cell.bare "left" "IOP" with
    ports := (∅ : Std.ExtTreeMap Name Port).insert "O" ⟨.output, some "clk"⟩
    params := ((∅ : Std.ExtTreeMap Name Property).insert "iobname" (.text "io")).insert "standard"
      (.text "LVCMOS_3.3V")
    bel := some ⟨0, 0⟩ }

/-- A pad at 1.8V that is not placed. -/
def rightPad : Cell :=
  { Cell.bare "right" "IOP" with
    params := (∅ : Std.ExtTreeMap Name Property).insert "standard" (.text "LVCMOS_1.8V") }

def flipFlop : Cell :=
  { Cell.bare "flop" "DFR" with
    ports := (∅ : Std.ExtTreeMap Name Port).insert "CK" ⟨.input, some "clk"⟩
    bel := some ⟨0, 3⟩ }

def netlist : Netlist :=
  (((Netlist.empty.setCell leftPad).setCell rightPad).setCell flipFlop).setNet
    ⟨"clk", some ⟨"left", "O"⟩, [⟨"flop", "CK"⟩], ∅⟩

theorem named : netlist.Named :=
  (((Netlist.named_empty.setCell leftPad).setCell rightPad).setCell flipFlop).setNet _

def layout : Layout :=
  match Layout.ofNetlist device netlist with
  | .ok layout => layout
  | .error _ => ⟨device, netlist, ∅, ∅, ∅⟩

theorem placed : Layout.ofNetlist device netlist = .ok layout := by
  rfl

def fabric : Fabric :=
  Fabric.ofOptions ⟨.firstFit, 8, 120, 18, 22, 40, 10, true⟩
    ⟨(∅ : Std.ExtTreeMap PrimitivePort SinkTier).insert ⟨"DFR", "CK"⟩ .fabric, ∅⟩

def plan : Plan :=
  (Plan.mk .fresh fabric layout).setUp.1

theorem built : ClockBuffer.byLobe device (TileNames.ofChip chip) =
    .ok ((∅ : Std.ExtTreeMap Nat (List ClockBuffer)).insert 0 [⟨⟨0, 2⟩, .any⟩]) := by
  with_unfolding_all rfl

theorem started : Plan.Started device netlist plan :=
  .of_built named placed built .fresh fabric

/-- A move, a refusal, a departure and an arrival. -/
def moves : List Operation :=
  [.bind ⟨0, 1⟩ "left", .bind ⟨0, 1⟩ "flop", .unbind ⟨0, 3⟩, .bind ⟨0, 4⟩ "flop"]

theorem moves_onDevice :
    ∀ operation ∈ moves, operation.OnDevice device ∧ operation.LeavesPads := by
  have first : device.isBel ⟨0, 1⟩ = true := by decide
  have last : device.isBel ⟨0, 4⟩ = true := by decide
  simp only [moves, List.forall_mem_cons]
  exact ⟨⟨first, trivial⟩, ⟨first, trivial⟩, ⟨trivial, trivial⟩, ⟨last, trivial⟩, by simp⟩

/-- The counts of the sample after some moves. -/
theorem counts_of_moves :
    (∀ lobe net, (plan.run moves).fabric.occupancy.clocks.count lobe net =
        {pin | (plan.run moves).ClockedAt lobe net pin}.ncard) ∧
      (∀ bank voltage, (plan.run moves).fabric.occupancy.voltages.count bank voltage =
        {bel | (plan.run moves).ImposedAt bank voltage bel}.ncard) ∧
      (∃ sizes, (plan.run moves).setUp.2 = .ok sizes) ∧
      (plan.run moves).setUp.1.fabric.occupancy = (plan.run moves).fabric.occupancy :=
  Plan.counts_of_run started moves moves_onDevice

end Sample

end UltraFabric
