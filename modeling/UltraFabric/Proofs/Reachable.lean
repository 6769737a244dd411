/-
# UltraFabric.Proofs.Reachable — everything that may have happened to a plan

A plan that has been started is worked on by operations and by passes over clock nets, in any order.
Some things stay whatever is done, right or wrong: cells and bels name each other, and the tables are
those of the device (`Reachable.invariant`).  Nothing is asked of the operations for
that; a cell may be asked onto a bel that is not there, and records may name any pad.

The counts are not among these things.
-/
import UltraFabric.Proofs.Audit
import UltraFabric.Proofs.Refusal
import UltraFabric.Proofs.Trees

namespace UltraFabric.Plan

set_option autoImplicit false

/-- A plan that has been started and worked on in any way. -/
inductive Reachable (device : Device) (netlist : Netlist) : Plan → Prop where
  | started {plan : Plan} (started : Started device netlist plan) : Reachable device netlist plan
  | after {plan : Plan} (before : Reachable device netlist plan) (operation : Operation) :
      Reachable device netlist (plan.after operation)
  | pass {plan : Plan} (before : Reachable device netlist plan) (pass : Pass) :
      Reachable device netlist (plan.pass pass)

/-- Cells and bels name each other, and the tables stay. -/
structure Sound (before after : Plan) : Prop where
  agree : after.layout.BelsAgree
  tables : before.SameTables after

theorem bind_of_missing {plan : Plan} {bel : BelId} (missing : plan.layout.device.isBel bel = false)
    (name : Name) : (plan.bind bel name).1 = false := by
  have refused : ∀ layout : Layout, layout.device = plan.layout.device →
      layout.bindBel? bel name = none := by
    intro layout same
    rw [Layout.bindBel?_eq_none_iff, same]
    exact Or.inl missing
  unfold bind
  split
  · rw [refused plan.layout rfl]
  · split
    · simp only [layout_track, refused plan.layout rfl]
    · rfl

theorem sound_bind {plan : Plan} (agree : plan.layout.BelsAgree) (bel : BelId) (name : Name) :
    plan.Sound (plan.bind bel name).2 := by
  cases isBel : plan.layout.device.isBel bel with
  | true =>
      refine ⟨?_, sameTables_bind agree isBel name⟩
      rcases bind_cases agree isBel name with
        same | ⟨free, cell, rfl, found, unplaced, same⟩ | ⟨free, old, cell, rfl, bound, same⟩
      · rw [same]
        exact agree
      · rw [same]
        exact agree.occupy isBel free found unplaced
      · rw [same]
        refine (agree.vacate bound).occupy isBel (Layout.isFree_vacate_of_isFree free) ?_ rfl
        exact (Layout.cell?_vacate cell.name).trans (if_pos rfl)
  | false =>
      rcases bind_refused_cases (bind_of_missing isBel name) with
        ⟨same, _⟩ | ⟨cell, old, _, _, _, _, same⟩
      · rw [same]
        exact ⟨agree, rfl, rfl, rfl⟩
      · rw [same]
        exact ⟨agree, rfl, rfl, rfl⟩

theorem sound_unbind {plan : Plan} (agree : plan.layout.BelsAgree) (bel : BelId) :
    plan.Sound (plan.unbind bel).2 := by
  refine ⟨?_, sameTables_unbind agree bel⟩
  rcases unbind_cases agree bel with ⟨_, same⟩ | ⟨cell, bound, same⟩
  · rw [same]
    exact agree
  · rw [same]
    exact agree.vacate bound

/-- **No operation breaks it.** -/
theorem sound_after {plan : Plan} (agree : plan.layout.BelsAgree) (operation : Operation) :
    plan.Sound (plan.after operation) := by
  rcases plan.after_cases operation with ⟨bel, name, rfl⟩ | ⟨bel, rfl⟩ | ⟨kept, _⟩
  · exact sound_bind agree bel name
  · exact sound_unbind agree bel
  · exact ⟨kept.agree agree, kept.sameTables⟩

/-- **Neither does a pass.** -/
theorem sound_pass {plan : Plan} (agree : plan.layout.BelsAgree) (pass : Pass) :
    plan.Sound (plan.pass pass) := by
  have same := plan.sameButRouting_pass pass
  exact ⟨agree.of_sameCells same.design.toSameCells, same.device, same.clocks, same.tables⟩

theorem Reachable.invariant {device : Device} {netlist : Netlist} {plan : Plan}
    (reachable : Reachable device netlist plan) : plan.layout.BelsAgree ∧ plan.Prepared := by
  induction reachable with
  | started started => exact ⟨started.consistent.agree, started.prepared⟩
  | after before operation ih =>
      obtain ⟨agree, prepared⟩ := ih
      obtain ⟨agree', tables⟩ := sound_after agree operation
      exact ⟨agree', tables.prepared prepared⟩
  | pass before pass ih =>
      obtain ⟨agree, prepared⟩ := ih
      obtain ⟨agree', tables⟩ := sound_pass agree pass
      exact ⟨agree', tables.prepared prepared⟩

end UltraFabric.Plan
