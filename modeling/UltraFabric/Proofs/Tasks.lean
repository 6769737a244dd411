/-
# UltraFabric.Proofs.Tasks — work on a placed design

A design that has been started is worked on in four ways: cells are put on bels and taken off, records
are applied, and something is done about clock nets (`Task`).  Any of it may be refused or end early.

The two sides of a plan meet in clock nets only.  Placing and records leave all routing and all that is
reserved alone (`KeepsRouting`), as a pass over clock nets leaves all cells alone.  Whatever is done,
cells and bels name each other and the tables stay (`sound_perform`).
-/
import UltraFabric.Proofs.Crossings
import UltraFabric.Proofs.Reachable

namespace UltraFabric

set_option autoImplicit false

/-- What is done to a design. -/
inductive Task where
  | bind (bel : BelId) (name : Name)
  | unbind (bel : BelId)
  | applyRecords (records : List ConfigRecord)
  | pass (pass : Plan.Pass)

namespace Plan

/-- The plan after a task, which may have been refused. -/
def perform (plan : Plan) : Task → Plan
  | .bind bel name => (plan.bind bel name).2
  | .unbind bel => (plan.unbind bel).2
  | .applyRecords records => (plan.applyRecords records).1
  | .pass pass => plan.pass pass

def performAll (plan : Plan) (tasks : List Task) : Plan :=
  tasks.foldl perform plan

/-! ### Placing leaves the routing alone -/

/-- Wires and pips belong to the same nets, and the same is reserved. -/
structure KeepsRouting (before after : Plan) : Prop where
  routing : before.layout.SameRouting after.layout
  reserved : after.fabric.reserved = before.fabric.reserved

namespace KeepsRouting

variable {before between after : Plan}

theorem refl (plan : Plan) : plan.KeepsRouting plan :=
  ⟨⟨rfl, rfl, rfl, rfl⟩, rfl⟩

theorem trans (first : before.KeepsRouting between) (second : between.KeepsRouting after) :
    before.KeepsRouting after where
  routing := {
    device := second.routing.device.trans first.routing.device
    nets := second.routing.nets.trans first.routing.nets
    netOnWire := second.routing.netOnWire.trans first.routing.netOnWire
    netOnPip := second.routing.netOnPip.trans first.routing.netOnPip }
  reserved := second.reserved.trans first.reserved

theorem device (kept : before.KeepsRouting after) : after.device = before.device :=
  kept.routing.device

theorem sameCrossings (kept : before.KeepsRouting after) : before.SameCrossings after := by
  refine ⟨kept.device, kept.routing.netOnPip, fun kind => ?_⟩
  cases kind with
  | generator => exact congrArg Reservations.generators kept.reserved
  | loop => exact congrArg Reservations.loops kept.reserved

end KeepsRouting

theorem track_counts (plan : Plan) (bel : BelId) (name : Name) (arrives : Bool) :
    ∃ occupancy, plan.track bel name arrives = plan.withOccupancy occupancy := by
  unfold track
  split
  · exact ⟨plan.fabric.occupancy, rfl⟩
  · exact ⟨_, rfl⟩

/-- Binding puts one cell on a bel or is refused; all else that it changes is counts. -/
theorem bind_moves (plan : Plan) (bel : BelId) (name : Name) :
    ∃ layout occupancy, (plan.bind bel name).2 = ({ plan with layout }.withOccupancy occupancy) ∧
      (((plan.bind bel name).1 = false ∧ layout = plan.layout) ∨
        ((plan.bind bel name).1 = true ∧ plan.layout.bindBel? bel name = some layout)) := by
  have refused : ∀ occupancy, plan.withOccupancy occupancy =
      ({ plan with layout := plan.layout } : Plan).withOccupancy occupancy := fun _ => rfl
  unfold bind
  split
  · split
    · exact ⟨plan.layout, plan.fabric.occupancy, rfl, Or.inl ⟨rfl, rfl⟩⟩
    · rename_i layout bound
      obtain ⟨occupancy, counted⟩ := ({ plan with layout } : Plan).track_counts bel name true
      exact ⟨layout, occupancy, counted, Or.inr ⟨rfl, bound⟩⟩
  · rename_i old _
    split
    · obtain ⟨left, counted⟩ := plan.track_counts old name false
      simp only [counted]
      split
      · exact ⟨plan.layout, left, rfl, Or.inl ⟨rfl, rfl⟩⟩
      · rename_i layout bound
        obtain ⟨occupancy, counted⟩ :=
          ({ plan.withOccupancy left with layout } : Plan).track_counts bel name true
        exact ⟨layout, occupancy, counted, Or.inr ⟨rfl, bound⟩⟩
    · exact ⟨plan.layout, plan.fabric.occupancy, rfl, Or.inl ⟨rfl, rfl⟩⟩

/-- Unbinding takes one cell off a bel or none. -/
theorem unbind_moves (plan : Plan) (bel : BelId) :
    ∃ layout occupancy, (plan.unbind bel).2 = ({ plan with layout }.withOccupancy occupancy) ∧
      (layout = plan.layout ∨ ∃ name, plan.layout.unbindBel? bel = some (name, layout)) := by
  unfold unbind
  split
  · exact ⟨plan.layout, plan.fabric.occupancy, rfl, Or.inl rfl⟩
  · rename_i cell _
    obtain ⟨occupancy, counted⟩ := plan.track_counts bel cell.name false
    simp only [counted]
    split
    · exact ⟨plan.layout, occupancy, rfl, Or.inl rfl⟩
    · rename_i name layout unbound
      exact ⟨layout, occupancy, rfl, Or.inr ⟨name, unbound⟩⟩

theorem keepsRouting_bind (plan : Plan) (bel : BelId) (name : Name) :
    plan.KeepsRouting (plan.bind bel name).2 := by
  obtain ⟨layout, occupancy, same, ⟨_, rfl⟩ | ⟨_, bound⟩⟩ := plan.bind_moves bel name
  · rw [same]
    exact ⟨⟨rfl, rfl, rfl, rfl⟩, rfl⟩
  · rw [same]
    exact ⟨Layout.sameRouting_bindBel? bound, rfl⟩

theorem keepsRouting_unbind (plan : Plan) (bel : BelId) : plan.KeepsRouting (plan.unbind bel).2 := by
  obtain ⟨layout, occupancy, same, rfl | ⟨name, unbound⟩⟩ := plan.unbind_moves bel
  · rw [same]
    exact ⟨⟨rfl, rfl, rfl, rfl⟩, rfl⟩
  · rw [same]
    exact ⟨Layout.sameRouting_unbindBel? unbound, rfl⟩

theorem keepsRouting_applyRecords (plan : Plan) (records : List ConfigRecord) :
    plan.KeepsRouting (plan.applyRecords records).1 := by
  refine applyRecordsFrom_keeps records (fun record _ before after _ _ _ kept applied => ?_)
    plan [] [] (.refl plan)
  rcases applyRecord_applied applied with ⟨_, _, -, -, -, rfl, -⟩ |
    ⟨pads, bel, lexicon, -, -, -, rfl, -⟩
  · exact kept.trans ⟨⟨rfl, rfl, rfl, rfl⟩, rfl⟩
  · exact kept.trans ⟨⟨rfl, rfl, rfl, rfl⟩, rfl⟩

/-- A task is a pass over clock nets, or it leaves the routing alone. -/
theorem perform_cases (plan : Plan) (task : Task) :
    (∃ pass, task = .pass pass) ∨ plan.KeepsRouting (plan.perform task) := by
  cases task with
  | bind bel name => exact Or.inr (plan.keepsRouting_bind bel name)
  | unbind bel => exact Or.inr (plan.keepsRouting_unbind bel)
  | applyRecords records => exact Or.inr (plan.keepsRouting_applyRecords records)
  | pass pass => exact Or.inl ⟨pass, rfl⟩

/-! ### What every task keeps -/

theorem device_perform (plan : Plan) (task : Task) : (plan.perform task).device = plan.device := by
  rcases plan.perform_cases task with ⟨pass, rfl⟩ | kept
  · exact (plan.sameButRouting_pass pass).device
  · exact kept.device

theorem device_performAll (tasks : List Task) :
    ∀ plan : Plan, (plan.performAll tasks).device = plan.device := by
  induction tasks with
  | nil => exact fun _ => rfl
  | cons task rest ih => exact fun plan => (ih (plan.perform task)).trans (plan.device_perform task)

/-- **Cells and bels name each other after any task**, and the tables stay. -/
theorem sound_perform {plan : Plan} (agree : plan.layout.BelsAgree) (task : Task) :
    plan.Sound (plan.perform task) := by
  cases task with
  | bind bel name => exact sound_after agree (.bind bel name)
  | unbind bel => exact sound_after agree (.unbind bel)
  | applyRecords records => exact sound_after agree (.applyRecords records)
  | pass pass => exact sound_pass agree pass

/-- At the start nothing is routed. -/
theorem Started.unbound {device : Device} {netlist : Netlist} {plan : Plan}
    (started : Started device netlist plan) :
    plan.layout.netOnWire = ∅ ∧ plan.layout.netOnPip = ∅ := by
  have placed := started.placed
  unfold Layout.ofNetlist at placed
  split at placed
  · cases placed
  · rw [← Except.ok.inj placed]
    exact ⟨rfl, rfl⟩

end Plan

end UltraFabric
