/-
# UltraFabric.Proofs.PadVoltage — the voltages that are counted and those that pads have

Where the counts of voltages are right, the check of one pad sees the whole bank: in a bank without a
configured voltage a pad is accepted exactly when no placed pad of the bank imposes another voltage
(`voltageViolation?_eq_none_iff`).

Records are applied to pads that may be placed, and they are not counted again.
`truthful_applyRecords_iff` says what that does: right counts stay right exactly when every bank has
as many placed pads at each voltage as before.  So the counts are right throughout a run exactly when
all records of the run are of this kind (`truthful_of_run_iff`); those are that give no placed pad
another voltage (`keepsVoltages_of_leaves`).  `Sample.stale_count` is a pad that is refused, alone in
its bank, because of the voltage it had before a record.
-/
import UltraFabric.Legality
import UltraFabric.Proofs.Run

namespace UltraFabric

set_option autoImplicit false

namespace Plan

/-- Every count of a voltage is the number of placed pads of the bank that impose it now. -/
def VoltagesTruthful (plan : Plan) : Prop :=
  ∀ bank voltage, plan.fabric.occupancy.voltages.count bank voltage =
    {bel | plan.ImposedAt bank voltage bel}.ncard

theorem truthful_iff_holds {plan : Plan} :
    plan.VoltagesTruthful ↔ plan.fabric.occupancy.voltages.Holds plan.allVoltageUses := by
  constructor
  · intro truthful bank voltage
    rw [truthful bank voltage, count_allVoltageUses]
  · intro holds bank voltage
    rw [holds bank voltage, count_allVoltageUses]

/-! ### The check of a pad -/

/-- The first voltage that a bank without a configured one has besides a given one: there is none
exactly when all that are counted are the same. -/
theorem bankVoltage?_agrees_iff {plan : Plan} {bank voltage : String}
    (unconfigured : plan.fabric.bankVoltage[bank]? = none) :
    (∀ other, plan.bankVoltage? bank voltage = some other → other = voltage) ↔
      ∀ other ∈ plan.fabric.occupancy.voltages.members bank, other = voltage := by
  have first : plan.bankVoltage? bank voltage =
      (plan.fabric.occupancy.voltages.members bank).find? (· ≠ voltage) := by
    simp only [bankVoltage?, unconfigured]
  rw [first]
  constructor
  · intro agrees other member
    refine Decidable.byContradiction fun different => ?_
    cases found : (plan.fabric.occupancy.voltages.members bank).find? (· ≠ voltage) with
    | none =>
        have same := List.find?_eq_none.1 found other member
        exact same (decide_eq_true different)
    | some another =>
        have distinct := List.find?_some found
        exact of_decide_eq_true distinct (agrees another found)
  · intro agree other found
    exact agree other (List.mem_of_find?_eq_some found)

theorem voltageViolation?_eq_none_iff_agrees {plan : Plan} {cell : Cell} {bel : BelId}
    {voltage : String} (imposed : imposedVoltage? cell = some voltage) :
    plan.voltageViolation? cell bel = none ↔ ∀ other,
      plan.bankVoltage? (plan.fabric.tables.tiles.bank bel.tile) voltage = some other →
        other = voltage := by
  simp only [voltageViolation?, imposed]
  cases plan.bankVoltage? (plan.fabric.tables.tiles.bank bel.tile) voltage with
  | none => simp
  | some other => simp

/-- The voltage of a pad is accepted: it is the configured one, or no placed pad of the bank has
another one. -/
def AcceptsVoltage (plan : Plan) (bank voltage : String) : Prop :=
  match plan.fabric.bankVoltage[bank]? with
  | some configured => voltage = configured
  | none => ∀ other bel, plan.ImposedAt bank other bel → other = voltage

/-- **The check of one pad sees the whole bank.** -/
theorem voltageViolation?_eq_none_iff {plan : Plan} {cell : Cell} {bel : BelId} {voltage : String}
    (truthful : plan.VoltagesTruthful) (imposed : imposedVoltage? cell = some voltage) :
    plan.voltageViolation? cell bel = none ↔
      plan.AcceptsVoltage (plan.fabric.tables.tiles.bank bel.tile) voltage := by
  have holds := truthful_iff_holds.1 truthful
  rw [voltageViolation?_eq_none_iff_agrees imposed, AcceptsVoltage]
  cases configuration : plan.fabric.bankVoltage[plan.fabric.tables.tiles.bank bel.tile]? with
  | some configured => simp [bankVoltage?, configuration, eq_comm]
  | none =>
      rw [bankVoltage?_agrees_iff configuration]
      constructor
      · intro agree other place imposes
        exact agree other
          (holds.mem_members_iff.2 (mem_allVoltageUses_iff_imposedAt.2 ⟨place, imposes⟩))
      · intro agree other member
        obtain ⟨place, imposes⟩ :=
          mem_allVoltageUses_iff_imposedAt.1 (holds.mem_members_iff.1 member)
        exact agree other place imposes

/-! ### Records -/

/-- Records leave as many placed pads at each voltage as there were, in every bank. -/
def KeepsVoltages (plan : Plan) (records : List ConfigRecord) : Prop :=
  ∀ bank voltage, {bel | (plan.applyRecords records).1.ImposedAt bank voltage bel}.ncard =
    {bel | plan.ImposedAt bank voltage bel}.ncard

/-- Records do not count, so right counts stay right when there is nothing to be counted anew. -/
theorem truthful_applyRecords_iff {plan : Plan} (truthful : plan.VoltagesTruthful)
    (records : List ConfigRecord) :
    (plan.applyRecords records).1.VoltagesTruthful ↔ plan.KeepsVoltages records := by
  have uncounted : (plan.applyRecords records).1.fabric.occupancy = plan.fabric.occupancy :=
    (plan.keepsPlaces_applyRecords records).occupancy
  constructor
  · intro after bank voltage
    rw [← after bank voltage, uncounted, truthful bank voltage]
  · intro keeps bank voltage
    rw [keeps bank voltage, uncounted, truthful bank voltage]

/-- The pads on the bels have the same voltages, and are named by the same records. -/
def SameVoltages (before after : Plan) : Prop :=
  after.fabric.tables = before.fabric.tables ∧
    ∀ bel, (after.layout.boundCell? bel).map PadRecord.voltageKey =
      (before.layout.boundCell? bel).map PadRecord.voltageKey

theorem SameVoltages.trans {before between after : Plan} (first : before.SameVoltages between)
    (second : between.SameVoltages after) : before.SameVoltages after :=
  ⟨second.1.trans first.1, fun bel => (second.2 bel).trans (first.2 bel)⟩

theorem SameVoltages.symm {before after : Plan} (same : before.SameVoltages after) :
    after.SameVoltages before :=
  ⟨same.1.symm, fun bel => (same.2 bel).symm⟩

theorem SameVoltages.bound {before after : Plan} (same : before.SameVoltages after) {bel : BelId}
    {cell : Cell} (bound : before.layout.boundCell? bel = some cell) :
    ∃ cell', after.layout.boundCell? bel = some cell' ∧
      PadRecord.voltageKey cell' = PadRecord.voltageKey cell := by
  have here := same.2 bel
  rw [bound, Option.map_some] at here
  exact Option.map_eq_some_iff.1 here

theorem SameVoltages.imposedAt {before after : Plan} (same : before.SameVoltages after)
    {bank voltage : String} {bel : BelId} (imposes : before.ImposedAt bank voltage bel) :
    after.ImposedAt bank voltage bel := by
  obtain ⟨here, cell, bound, imposed⟩ := imposes
  obtain ⟨cell', bound', key⟩ := same.bound bound
  have sameVoltage : imposedVoltage? cell' = imposedVoltage? cell :=
    congrArg (fun key => key.2.2.2) key
  refine ⟨by rw [same.1]; exact here, cell', bound', ?_⟩
  rw [← imposedVoltage?_eq_some_iff, sameVoltage, imposedVoltage?_eq_some_iff]
  exact imposed

theorem sameVoltages_setPads {plan : Plan} {record : PadRecord} (bel : BelId)
    (leaves : ∀ place cell, plan.layout.boundCell? place = some cell → record.LeavesVoltage cell) :
    plan.SameVoltages (plan.setPads record bel) := by
  refine ⟨rfl, fun place => ?_⟩
  have settled : (plan.setPads record bel).layout.boundCell? place =
      (plan.layout.boundCell? place).map (record.settle bel) := by
    rw [Layout.boundCell?, Layout.boundCell?, (plan.keepsPlaces_setPads record bel).cellOn]
    cases plan.layout.cellOn[place]? with
    | none => rfl
    | some name => exact plan.cell?_setPads record bel name
  rw [settled]
  cases bound : plan.layout.boundCell? place with
  | none => rfl
  | some cell => exact congrArg some (PadRecord.voltageKey_settle (leaves place cell bound))

theorem sameVoltages_applyRecord {plan after : Plan} {claimed claimed' : List String}
    {notices : List Notice} {record : ConfigRecord}
    (leaves : ∀ pads, record = .padLocation pads → ∀ place cell,
      plan.layout.boundCell? place = some cell → pads.LeavesVoltage cell)
    (applied : plan.applyRecord claimed record = (after, notices, .ok claimed')) :
    plan.SameVoltages after := by
  rcases applyRecord_applied applied with ⟨_, _, -, -, -, rfl, -⟩ |
    ⟨pads, bel, lexicon, rfl, -, -, rfl, -⟩
  · exact ⟨rfl, fun _ => rfl⟩
  · exact sameVoltages_setPads bel (leaves pads rfl)

theorem sameVoltages_applyRecords {plan : Plan} {records : List ConfigRecord}
    (leaves : ∀ pads, .padLocation pads ∈ records → ∀ place cell,
      plan.layout.boundCell? place = some cell → pads.LeavesVoltage cell) :
    plan.SameVoltages (plan.applyRecords records).1 := by
  refine applyRecordsFrom_keeps records ?_ plan [] [] ⟨rfl, fun _ => rfl⟩
  intro record member between after claimed claimed' notices same applied
  refine same.trans (sameVoltages_applyRecord ?_ applied)
  rintro pads rfl place cell bound
  -- The pad is as it was at first, as far as voltages go.
  obtain ⟨cell', bound', key⟩ := same.symm.bound bound
  exact PadRecord.leavesVoltage_congr key.symm (leaves pads member place cell' bound')

/-- **Records that give no placed pad another voltage keep the counts right.** -/
theorem keepsVoltages_of_leaves {plan : Plan} {records : List ConfigRecord}
    (leaves : ∀ pads, .padLocation pads ∈ records → ∀ bel cell,
      plan.layout.boundCell? bel = some cell → pads.LeavesVoltage cell) :
    plan.KeepsVoltages records := by
  intro bank voltage
  have same : plan.SameVoltages (plan.applyRecords records).1 := sameVoltages_applyRecords leaves
  have sets : {bel | (plan.applyRecords records).1.ImposedAt bank voltage bel} =
      {bel | plan.ImposedAt bank voltage bel} := by
    apply Set.ext
    intro bel
    exact ⟨same.symm.imposedAt, same.imposedAt⟩
  rw [sets]

/-- A run in which all records keep the voltages keeps the counts right, step by step. -/
theorem consistent_of_keepsVoltages {plan : Plan} (consistent : plan.Consistent)
    (operations : List Operation)
    (onDevice : ∀ operation ∈ operations, operation.OnDevice plan.device)
    (keeps : ∀ taken records rest, operations = taken ++ .applyRecords records :: rest →
      (plan.run taken).KeepsVoltages records) (taken : List Operation) :
    ∀ rest, operations = taken ++ rest →
      (plan.run taken).Consistent ∧ plan.SameTables (plan.run taken) := by
  -- On the operations that have been taken, the last one first: it acts on what the others left.
  induction taken using List.reverseRecOn with
  | nil =>
      intro rest _
      exact ⟨consistent, rfl, rfl, rfl⟩
  | append_singleton taken operation ih =>
      intro rest split
      rw [List.append_assoc, List.singleton_append] at split
      obtain ⟨before, same⟩ := ih (operation :: rest) split
      have placed : operation.OnDevice (plan.run taken).device := by
        rw [same.device]
        exact onDevice operation (by simp [split])
      have step : plan.run (taken ++ [operation]) = (plan.run taken).after operation := by
        rw [run_append]
        rfl
      obtain ⟨agree, clocks, same'⟩ := agree_after before operation placed
      rw [step]
      refine ⟨?_, same.trans same'⟩
      cases operation with
      | applyRecords records =>
          have truthful := truthful_iff_holds.2 before.counted.voltages
          have still := (truthful_applyRecords_iff truthful records).2 (keeps taken records rest split)
          exact ⟨agree, clocks, truthful_iff_holds.1 still⟩
      | bind bel name => exact before.after _ placed trivial
      | unbind bel => exact before.after _ placed trivial
      | bindWire wire net => exact before.after _ placed trivial
      | bindPip pip net => exact before.after _ placed trivial
      | unbindWire wire => exact before.after _ placed trivial
      | mention name => exact before.after _ placed trivial

section Started

variable {device : Device} {netlist : Netlist} {plan : Plan}

/-- **When the counts of voltages are right.**  They are right after every part of a run exactly when
all records of the run leave, in every bank, as many placed pads at each voltage as there were.  As
long as they are right, a pad in a bank without a configured voltage is refused exactly when another
placed pad of the bank has another voltage now. -/
theorem truthful_of_run_iff (started : Started device netlist plan) (operations : List Operation)
    (onDevice : ∀ operation ∈ operations, operation.OnDevice device) :
    ((∀ taken rest, operations = taken ++ rest → (plan.run taken).VoltagesTruthful) ↔
      ∀ taken records rest, operations = taken ++ .applyRecords records :: rest →
        (plan.run taken).KeepsVoltages records) ∧
    ∀ taken rest, operations = taken ++ rest → (plan.run taken).VoltagesTruthful →
      ∀ bel cell voltage, (plan.run taken).layout.boundCell? bel = some cell →
        imposedVoltage? cell = some voltage →
        (plan.run taken).fabric.bankVoltage[(plan.run taken).fabric.tables.tiles.bank bel.tile]? =
          none →
        ((plan.run taken).voltageViolation? cell bel ≠ none ↔
          ∃ other voltage', other ≠ bel ∧ voltage' ≠ voltage ∧
            (plan.run taken).ImposedAt ((plan.run taken).fabric.tables.tiles.bank bel.tile) voltage'
              other) := by
  rw [← started.device] at onDevice
  refine ⟨⟨fun truthful taken records rest split => ?_, fun keeps taken rest split => ?_⟩, ?_⟩
  · have before := truthful taken (.applyRecords records :: rest) split
    have after := truthful (taken ++ [.applyRecords records]) rest (by simp [split])
    rw [run_append] at after
    exact (truthful_applyRecords_iff before records).1 after
  · have kept := consistent_of_keepsVoltages started.consistent operations onDevice keeps taken
    exact truthful_iff_holds.2 (kept rest split).1.counted.voltages
  · intro taken rest split truthful bel cell voltage bound imposed unconfigured
    rw [Ne, voltageViolation?_eq_none_iff truthful imposed, AcceptsVoltage, unconfigured]
    simp only [not_forall]
    constructor
    · rintro ⟨voltage', other, imposes, different⟩
      refine ⟨other, voltage', ?_, different, imposes⟩
      rintro rfl
      -- The pad itself has one voltage only.
      obtain ⟨_, cell', bound', imposed'⟩ := imposes
      rw [bound] at bound'
      cases bound'
      rw [← imposedVoltage?_eq_some_iff, imposed] at imposed'
      cases imposed'
      exact different rfl
    · rintro ⟨other, voltage', _, different, imposes⟩
      exact ⟨voltage', other, imposes, different⟩

end Started

end Plan

namespace Sample

/-- A record that gives the pads called `io` another standard. -/
def lowered : PadRecord :=
  ⟨"io", "IOB0_P0", some "LVCMOS_1.8V", none, none, none, none, none, none, none⟩

/-- The sample pad is moved before the record. -/
def movedAndLowered : List Operation :=
  [.bind ⟨0, 1⟩ "left", .applyRecords [.padLocation lowered]]

theorem movedAndLowered_onDevice :
    ∀ operation ∈ movedAndLowered, operation.OnDevice device := by
  have first : device.isBel ⟨0, 1⟩ = true := by decide
  simp only [movedAndLowered, List.forall_mem_cons]
  exact ⟨first, trivial, by simp⟩

theorem truthful_of_movedAndLowered_iff :
    (∀ taken rest, movedAndLowered = taken ++ rest → (plan.run taken).VoltagesTruthful) ↔
      ∀ taken records rest, movedAndLowered = taken ++ .applyRecords records :: rest →
        (plan.run taken).KeepsVoltages records :=
  (Plan.truthful_of_run_iff started movedAndLowered movedAndLowered_onDevice).1

/-- The one placed pad of a bank is at 1.8V after a record; it is counted at 3.3V, and refused for
that. -/
theorem stale_count :
    Plan.Started device netlist plan ∧
      (plan.run [.applyRecords [.padLocation lowered]]).allVoltageUses = [⟨"IOB0", "1.8V"⟩] ∧
      (plan.run [.applyRecords [.padLocation lowered]]).isLegalAt ⟨0, 0⟩ = .ok false ∧
      ¬ (plan.run [.applyRecords [.padLocation lowered]]).VoltagesTruthful := by
  have uses : (plan.run [.applyRecords [.padLocation lowered]]).allVoltageUses =
      [⟨"IOB0", "1.8V"⟩] := by
    decide +kernel
  have counted : (plan.run [.applyRecords [.padLocation lowered]]).fabric.occupancy.voltages.count
      "IOB0" "3.3V" = 1 := by
    decide +kernel
  refine ⟨started, uses, by with_unfolding_all rfl, fun truthful => ?_⟩
  have held := Plan.truthful_iff_holds.1 truthful "IOB0" "3.3V"
  rw [counted, uses] at held
  exact absurd held (by decide)

end Sample

end UltraFabric
