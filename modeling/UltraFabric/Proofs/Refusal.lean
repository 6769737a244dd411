/-
# UltraFabric.Proofs.Refusal — what a refused cell leaves behind

Putting a cell on a bel is refused when the bel is taken, when it is none of the device, or when there
is no such cell.  The layout never changes then.  The counts do change in one case: a placed cell is
taken out of the counts before the layout is asked, and the only question asked before that is whether
the new bel is free.  A bel that the device does not have is free.

`LosesCounts` names that case, and `bind_refused` says that it is the only one.  Where the counts are
right, it is enough that the cell uses anything at all (`losesCounts_iff`).  `Sample.count_lost` is a
pad that is still placed and no longer counted.
-/
import UltraFabric.Proofs.Run

namespace UltraFabric

set_option autoImplicit false

namespace Plan

/-- A placed cell is asked onto a bel that is free and not one of the device, and some use of it is
counted. -/
def LosesCounts (plan : Plan) (bel : BelId) (name : Name) : Prop :=
  ∃ cell old, plan.layout.cell? name = some cell ∧ cell.bel = some old ∧
    plan.layout.isFree bel = true ∧ plan.layout.device.isBel bel = false ∧
    ((∃ use ∈ plan.clockUses old cell,
        plan.fabric.occupancy.clocks.count use.group use.member ≠ 0) ∨
      ∃ use ∈ plan.voltageUses old cell,
        plan.fabric.occupancy.voltages.count use.group use.member ≠ 0)

/-- A plan with other counts. -/
def withOccupancy (plan : Plan) (occupancy : Occupancy) : Plan :=
  { plan with fabric := { plan.fabric with occupancy } }

/-- A cell leaves the counts unchanged when none of its uses is counted. -/
theorem trackedOccupancy_leave_eq_self_iff (plan : Plan) (bel : BelId) (cell : Cell) :
    plan.trackedOccupancy plan.fabric.occupancy bel cell false = plan.fabric.occupancy ↔
      (∀ use ∈ plan.clockUses bel cell,
        plan.fabric.occupancy.clocks.count use.group use.member = 0) ∧
      ∀ use ∈ plan.voltageUses bel cell,
        plan.fabric.occupancy.voltages.count use.group use.member = 0 := by
  rw [trackedOccupancy_eq, ← Tally.changeAll_leave_eq_self_iff,
    ← Tally.changeAll_leave_eq_self_iff]
  constructor
  · intro same
    exact ⟨congrArg Occupancy.clocks same, congrArg Occupancy.voltages same⟩
  · rintro ⟨clocks, voltages⟩
    rw [clocks, voltages]

/-- A placed cell is refused a free bel because the device does not have the bel, and by then it has
left the counts. -/
theorem bind_refused_of_placed {plan : Plan} {bel old : BelId} {name : Name} {cell : Cell}
    (found : plan.layout.cell? name = some cell) (placed : cell.bel = some old)
    (free : plan.layout.isFree bel = true) (refused : (plan.bind bel name).1 = false) :
    plan.layout.device.isBel bel = false ∧ (plan.bind bel name).2 =
      plan.withOccupancy (plan.trackedOccupancy plan.fabric.occupancy old cell false) := by
  have somewhere : plan.layout.belOf? name = some old :=
    Layout.belOf?_eq_some_iff.2 ⟨cell, found, placed⟩
  have left : plan.track old name false = plan.withOccupancy
      (plan.trackedOccupancy plan.fabric.occupancy old cell false) :=
    track_of_found old false found
  have asked : (plan.withOccupancy
      (plan.trackedOccupancy plan.fabric.occupancy old cell false)).layout = plan.layout :=
    rfl
  simp only [bind, somewhere, free, if_true, left, asked] at refused ⊢
  cases bound : plan.layout.bindBel? bel name with
  | some layout =>
      rw [bound] at refused
      cases refused
  | none =>
      refine ⟨?_, rfl⟩
      rcases Layout.bindBel?_eq_none_iff.1 bound with noBel | taken | missing
      · exact noBel
      · rw [free] at taken
        cases taken
      · rw [found] at missing
        cases missing

/-- How a refusal comes about: nothing happens, or a placed cell has left the counts for a free bel
that the device does not have. -/
theorem bind_refused_cases {plan : Plan} {bel : BelId} {name : Name}
    (refused : (plan.bind bel name).1 = false) :
    ((plan.bind bel name).2 = plan ∧ ¬ plan.LosesCounts bel name) ∨
      ∃ cell old, plan.layout.cell? name = some cell ∧ cell.bel = some old ∧
        plan.layout.isFree bel = true ∧ plan.layout.device.isBel bel = false ∧
        (plan.bind bel name).2 =
          plan.withOccupancy (plan.trackedOccupancy plan.fabric.occupancy old cell false) := by
  cases somewhere : plan.layout.belOf? name with
  | none =>
      left
      have unplaced : ¬ plan.LosesCounts bel name := by
        rintro ⟨cell, old, found, placed, _⟩
        simp [Layout.belOf?, found, placed] at somewhere
      simp only [bind, somewhere] at refused ⊢
      cases bound : plan.layout.bindBel? bel name with
      | none => exact ⟨rfl, unplaced⟩
      | some layout =>
          rw [bound] at refused
          cases refused
  | some old =>
      cases free : plan.layout.isFree bel with
      | false =>
          left
          have taken : ¬ plan.LosesCounts bel name := by
            rintro ⟨_, _, _, _, free', _⟩
            rw [free] at free'
            cases free'
          simp only [bind, somewhere, free]
          exact ⟨rfl, taken⟩
      | true =>
          right
          obtain ⟨cell, found, placed⟩ := Layout.belOf?_eq_some_iff.1 somewhere
          obtain ⟨noBel, left⟩ := bind_refused_of_placed found placed free refused
          exact ⟨cell, old, found, placed, rfl, noBel, left⟩

/-- **A refusal changes nothing but counts, and it changes those in one case only.**  Lexicon, layout,
and all that the architecture knows besides the counts are the same; the counts are the same unless
`LosesCounts`. -/
theorem bind_refused (plan : Plan) (bel : BelId) (name : Name)
    (refused : (plan.bind bel name).1 = false) :
    (plan.bind bel name).2 = plan.withOccupancy (plan.bind bel name).2.fabric.occupancy ∧
      ((plan.bind bel name).2 = plan ↔ ¬ plan.LosesCounts bel name) := by
  rcases bind_refused_cases refused with
    ⟨same, keeps⟩ | ⟨cell, old, found, placed, free, noBel, left⟩
  · rw [same]
    exact ⟨rfl, iff_of_true rfl keeps⟩
  · rw [left]
    refine ⟨rfl, ?_⟩
    have counts : plan.withOccupancy (plan.trackedOccupancy plan.fabric.occupancy old cell false) =
          plan ↔
        plan.trackedOccupancy plan.fabric.occupancy old cell false = plan.fabric.occupancy := by
      constructor
      · intro same
        exact congrArg (fun plan : Plan => plan.fabric.occupancy) same
      · intro same
        rw [same]
        rfl
    rw [counts, trackedOccupancy_leave_eq_self_iff]
    constructor
    · rintro ⟨clocks, voltages⟩ ⟨cell', old', found', placed', _, _, lost⟩
      cases found.symm.trans found'
      cases placed.symm.trans placed'
      rcases lost with ⟨use, used, counted⟩ | ⟨use, used, counted⟩
      · exact counted (clocks use used)
      · exact counted (voltages use used)
    · intro keeps
      constructor
      · intro use used
        exact Decidable.byContradiction fun counted =>
          keeps ⟨cell, old, found, placed, free, noBel, Or.inl ⟨use, used, counted⟩⟩
      · intro use used
        exact Decidable.byContradiction fun counted =>
          keeps ⟨cell, old, found, placed, free, noBel, Or.inr ⟨use, used, counted⟩⟩

/-- Where the counts are right, every use of a placed cell is counted. -/
theorem losesCounts_iff {plan : Plan} (consistent : plan.Consistent) (bel : BelId) (name : Name) :
    plan.LosesCounts bel name ↔
      plan.layout.device.isBel bel = false ∧ ∃ cell old, cell.name = name ∧
        plan.layout.boundCell? old = some cell ∧
        (plan.clockUses old cell ≠ [] ∨ plan.voltageUses old cell ≠ []) := by
  constructor
  · rintro ⟨cell, old, found, placed, _, noBel, lost⟩
    cases consistent.agree.named name cell found
    refine ⟨noBel, cell, old, rfl, consistent.agree.bound_iff.2 ⟨found, placed⟩, ?_⟩
    rcases lost with ⟨use, used, _⟩ | ⟨use, used, _⟩
    · exact Or.inl (List.ne_nil_of_mem used)
    · exact Or.inr (List.ne_nil_of_mem used)
  · rintro ⟨noBel, cell, old, rfl, bound, uses⟩
    obtain ⟨found, placed⟩ := consistent.agree.bound_iff.1 bound
    have free : plan.layout.isFree bel = true := by
      rw [Layout.isFree_iff]
      cases occupied : plan.layout.cellOn[bel]? with
      | none => rfl
      | some other =>
          have isBel := consistent.agree.onDevice bel other occupied
          rw [noBel] at isBel
          cases isBel
    refine ⟨cell, old, found, placed, free, noBel, ?_⟩
    rcases uses with uses | uses
    · obtain ⟨use, used⟩ := List.exists_mem_of_ne_nil _ uses
      have member : use ∈ plan.allClockUses := Layout.mem_uses_iff.2 ⟨old, cell, bound, used⟩
      exact Or.inl ⟨use, used, consistent.counted.clocks.count_ne_zero_iff.2 member⟩
    · obtain ⟨use, used⟩ := List.exists_mem_of_ne_nil _ uses
      have member : use ∈ plan.allVoltageUses := Layout.mem_uses_iff.2 ⟨old, cell, bound, used⟩
      exact Or.inr ⟨use, used, consistent.counted.voltages.count_ne_zero_iff.2 member⟩

end Plan

namespace Sample

/-- A taken bel: nothing is lost. -/
theorem refused_of_taken :
    (plan.bind ⟨0, 3⟩ "left").1 = false ∧
      (plan.bind ⟨0, 3⟩ "left").2 =
        plan.withOccupancy (plan.bind ⟨0, 3⟩ "left").2.fabric.occupancy ∧
      ((plan.bind ⟨0, 3⟩ "left").2 = plan ↔ ¬ plan.LosesCounts ⟨0, 3⟩ "left") :=
  have refused : (plan.bind ⟨0, 3⟩ "left").1 = false := by decide +kernel
  ⟨refused, Plan.bind_refused plan ⟨0, 3⟩ "left" refused⟩

/-- A bel that is not there: the pad stays on its bel, and its voltage is no longer counted. -/
theorem count_lost :
    Plan.Started device netlist plan ∧ (plan.bind ⟨9, 0⟩ "left").1 = false ∧
      (plan.bind ⟨9, 0⟩ "left").2.layout.belOf? "left" = some ⟨0, 0⟩ ∧
      plan.fabric.occupancy.voltages.count "IOB0" "3.3V" = 1 ∧
      (plan.bind ⟨9, 0⟩ "left").2.fabric.occupancy.voltages.count "IOB0" "3.3V" = 0 :=
  ⟨started, by decide +kernel, by decide +kernel, by decide +kernel, by decide +kernel⟩

end Sample

end UltraFabric
