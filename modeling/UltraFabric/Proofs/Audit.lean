/-
# UltraFabric.Proofs.Audit — looking at every cell is looking at the design

An audit asks of every placed cell, one by one, whether it may stand on its bel.  What is wanted of the
design is not about single cells: banks, groups of bels, dedicated links and lobes are shared
(`Plan.Legal`).  `audit_exact` says that after any run that leaves the pads both come to the same, and
that the audit always has an answer.

The counts are where this could go wrong, since a check reads them in place of the other cells.  That
they are right is all that is used of the run (`Consistent`), besides the tables being those of the
device.
-/
import UltraFabric.Proofs.Checks
import UltraFabric.Proofs.PadVoltage

namespace UltraFabric

set_option autoImplicit false

namespace Plan

/-- What is wanted of a design that has been placed. -/
structure Legal (plan : Plan) : Prop where
  /-- Every pad has the voltage of its bank: the configured one, or that of all other pads. -/
  voltages : ∀ bank voltage bel, plan.ImposedAt bank voltage bel → plan.AcceptsVoltage bank voltage
  /-- Cells of a group agree on the nets at the ports that they share. -/
  groups : ∀ bel cell, plan.layout.boundCell? bel = some cell → plan.layout.GroupAgrees cell bel
  /-- Ports are fed through the inputs that the cells ask for. -/
  settings : ∀ bel cell, plan.layout.boundCell? bel = some cell → plan.layout.SettingsAgree cell bel
  /-- Placed multipliers that pass results to each other have the dedicated link. -/
  cascades : ∀ bel cell, plan.layout.boundCell? bel = some cell → cell.type = "DSP" →
    plan.CascadeLinked cell bel
  /-- The clock nets of a lobe all get a buffer of it. -/
  clocks : ∀ lobe, plan.LobeServed lobe

/-! ### One cell -/

section OneCell

variable {plan : Plan} {cell : Cell} {bel : BelId}

/-- The four checks stop at the first violation; nothing speaks against a cell when none finds one. -/
theorem violation?_eq_ok_none_iff (isBel : plan.device.isBel bel = true) (moves : Placement) :
    plan.violation? cell bel moves = .ok none ↔
      plan.voltageViolation? cell bel = none ∧ groupViolation? ⟨plan.layout, moves⟩ cell bel = none ∧
      settingViolation? plan.layout cell bel = none ∧
      (cell.type = "DSP" → plan.cascadeViolation? ⟨plan.layout, moves⟩ cell bel = none) ∧
      plan.clockViolation? moves cell bel = .ok none := by
  simp only [violation?, violationBy, isBel, Bool.not_true, Bool.false_eq_true, if_false]
  cases plan.voltageViolation? cell bel with
  | some violation => simp
  | none =>
      cases groupViolation? ⟨plan.layout, moves⟩ cell bel with
      | some violation => simp
      | none =>
          cases settingViolation? plan.layout cell bel with
          | some violation => simp
          | none =>
              by_cases multiplier : cell.type = "DSP"
              · cases plan.cascadeViolation? ⟨plan.layout, moves⟩ cell bel with
                | some violation => simp [multiplier]
                | none => simp [multiplier]
              · simp [multiplier]

theorem violation?_total (there : ClockBuffer.OnDevice plan.device plan.fabric.tables.buffers)
    (isBel : plan.device.isBel bel = true) (cell : Cell) (moves : Placement) :
    ∃ answer, plan.violation? cell bel moves = .ok answer := by
  simp only [violation?, violationBy, isBel, Bool.not_true, Bool.false_eq_true, if_false]
  cases plan.voltageViolation? cell bel with
  | some violation => exact ⟨_, rfl⟩
  | none =>
      cases groupViolation? ⟨plan.layout, moves⟩ cell bel with
      | some violation => exact ⟨_, rfl⟩
      | none =>
          cases settingViolation? plan.layout cell bel with
          | some violation => exact ⟨_, rfl⟩
          | none =>
              dsimp only
              split
              · exact ⟨_, rfl⟩
              · exact clockViolation?_total there moves cell bel

/-- **The audit has an answer for every bel**, of the device or not. -/
theorem isLegalAt_total (there : ClockBuffer.OnDevice plan.device plan.fabric.tables.buffers)
    (bel : BelId) : ∃ verdict, plan.isLegalAt bel = .ok verdict := by
  unfold isLegalAt violationAt? violationAtBy
  split
  · rename_i isBel
    cases plan.layout.boundCell? bel with
    | none => exact ⟨_, rfl⟩
    | some cell =>
        obtain ⟨answer, looked⟩ := violation?_total there isBel cell []
        simp only [looked]
        exact ⟨_, rfl⟩
  · exact ⟨false, rfl⟩

theorem isLegalAt_eq_ok_true_iff (isBel : plan.device.isBel bel = true)
    (bound : plan.layout.boundCell? bel = some cell) :
    plan.isLegalAt bel = .ok true ↔ plan.violation? cell bel [] = .ok none := by
  simp only [isLegalAt, isBel, if_true, violationAt?, violationAtBy, bound]
  cases plan.violation? cell bel [] with
  | error fault => simp [Except.map]
  | ok answer => cases answer <;> simp [Except.map]

/-- What the audit asks of one placed cell, said without the counts. -/
theorem isLegalAt_iff (consistent : plan.Consistent)
    (bound : plan.layout.boundCell? bel = some cell) :
    plan.isLegalAt bel = .ok true ↔
      (∀ voltage, imposedVoltage? cell = some voltage →
        plan.AcceptsVoltage (plan.fabric.tables.tiles.bank bel.tile) voltage) ∧
      plan.layout.GroupAgrees cell bel ∧ plan.layout.SettingsAgree cell bel ∧
      (cell.type = "DSP" → plan.CascadeLinked cell bel) ∧
      (plan.bufferedNets cell ≠ [] →
        ∀ lobe, plan.fabric.tables.tiles.lobe? bel.tile = some lobe → plan.LobeServed lobe) := by
  obtain ⟨agree, counted⟩ := consistent
  have isBel := agree.isBel_of_bound bound
  have truthful := truthful_iff_holds.2 counted.voltages
  have voltages : plan.voltageViolation? cell bel = none ↔
      ∀ voltage, imposedVoltage? cell = some voltage →
        plan.AcceptsVoltage (plan.fabric.tables.tiles.bank bel.tile) voltage := by
    cases imposed : imposedVoltage? cell with
    | none => simp [voltageViolation?, imposed]
    | some voltage =>
        rw [voltageViolation?_eq_none_iff truthful imposed]
        simp
  rw [isLegalAt_eq_ok_true_iff isBel bound, violation?_eq_ok_none_iff isBel, voltages,
    groupViolation?_eq_none_iff agree bound, settingViolation?_eq_none_iff,
    cascadeViolation?_eq_none_iff agree bound, clockViolation?_eq_ok_none_iff counted bound]

end OneCell

/-! ### All cells -/

/-- **All placed cells are legal exactly when the design is.** -/
theorem legal_iff {plan : Plan} (consistent : plan.Consistent) :
    (∀ bel cell, plan.layout.boundCell? bel = some cell → plan.isLegalAt bel = .ok true) ↔
      plan.Legal := by
  constructor
  · intro audited
    have each := fun bel cell (bound : plan.layout.boundCell? bel = some cell) =>
      (isLegalAt_iff consistent bound).1 (audited bel cell bound)
    refine ⟨?_, fun bel cell bound => (each bel cell bound).2.1,
      fun bel cell bound => (each bel cell bound).2.2.1,
      fun bel cell bound => (each bel cell bound).2.2.2.1, ?_⟩
    · rintro bank voltage bel ⟨rfl, cell, bound, imposed⟩
      exact (each bel cell bound).1 voltage (imposedVoltage?_eq_some_iff.2 imposed)
    · intro lobe buffers found
      cases nets : plan.lobeClocks lobe with
      | nil => exact ⟨[], rfl⟩
      | cons net rest =>
          -- Whoever takes a net into the lobe has been asked for all of its nets.
          have member : net ∈ plan.lobeClocks lobe := by
            rw [nets]
            exact List.mem_cons_self
          have used := mem_allClockUses_iff_clockedAt.2 (mem_lobeClocks_iff.1 member)
          obtain ⟨bel, cell, bound, used⟩ := Layout.mem_uses_iff.1 used
          obtain ⟨here, clocked⟩ := mem_clockUses_iff.1 used
          have served := (each bel cell bound).2.2.2.2 (List.ne_nil_of_mem clocked) lobe here
          rw [← nets]
          exact served buffers found
  · intro legal bel cell bound
    refine (isLegalAt_iff consistent bound).2
      ⟨fun voltage imposed => ?_, legal.groups bel cell bound, legal.settings bel cell bound,
        legal.cascades bel cell bound, fun _ lobe _ => legal.clocks lobe⟩
    exact legal.voltages _ voltage bel ⟨rfl, cell, bound, imposedVoltage?_eq_some_iff.1 imposed⟩

theorem Prepared.onDevice {plan : Plan} (prepared : plan.Prepared) :
    ClockBuffer.OnDevice plan.device plan.fabric.tables.buffers := by
  obtain ⟨buffers, built, tables⟩ := prepared
  rw [tables]
  exact ClockBuffer.isBel_of_byLobe built

/-- **The audit is exact.**  After any run of operations that leave the pads, the audit has an answer
for every bel, and it accepts all placed cells exactly when the design is legal. -/
theorem audit_exact {device : Device} {netlist : Netlist} {plan : Plan}
    (started : Started device netlist plan) (operations : List Operation)
    (moves : ∀ operation ∈ operations, operation.OnDevice device ∧ operation.LeavesPads) :
    (∀ bel, ∃ verdict, (plan.run operations).isLegalAt bel = .ok verdict) ∧
      ((∀ bel cell, (plan.run operations).layout.boundCell? bel = some cell →
        (plan.run operations).isLegalAt bel = .ok true) ↔ (plan.run operations).Legal) := by
  rw [← started.device] at moves
  obtain ⟨consistent, same⟩ := Consistent.run operations started.consistent moves
  have there := (same.prepared started.prepared).onDevice
  exact ⟨isLegalAt_total there, legal_iff consistent⟩

end Plan

namespace Sample

/-- The audit of the sample after some moves. -/
theorem audit_of_moves :
    (∀ bel, ∃ verdict, (plan.run moves).isLegalAt bel = .ok verdict) ∧
      ((∀ bel cell, (plan.run moves).layout.boundCell? bel = some cell →
        (plan.run moves).isLegalAt bel = .ok true) ↔ (plan.run moves).Legal) :=
  Plan.audit_exact started moves moves_onDevice

end Sample

end UltraFabric
