/-
# UltraFabric.Proofs.Sealed — nothing else can drive a reserved wire

A wire that a clock net has by way of a pip is sealed: every pip into it is blocked, the one in use
among them, so general routing cannot drive it from a second source.  Nothing else is blocked, and
clock nets have no wires but dedicated ones and those at their own ends (`Plan.Sealed`).

All three are properties of what has been taken and not of one path, since later paths begin at the
wires of earlier ones.  A pass adds to each what it takes (`Gains.sealed`); a release takes all away
(`Sealed.release`).  Opening all pips is the one thing that breaks a seal.
-/
import UltraFabric.Proofs.Served
import UltraFabric.Proofs.Trees

namespace UltraFabric

set_option autoImplicit false

namespace Plan

/-- Wires that nets have by way of a pip are sealed, nothing else is blocked, and nets have dedicated
wires only. -/
structure Sealed (plan : Plan) : Prop where
  /-- The pip that drives a wire is one of those into it, and none of these is open. -/
  shut : ∀ name wire pip, plan.layout.hold? name wire = some (some pip) →
    (∃ arc ∈ plan.device.entering wire, arc.pip = pip) ∧
      ∀ arc ∈ plan.device.entering wire, plan.isOpen arc.pip = false
  /-- A pip that is not open leads into a wire that a net has by way of a pip. -/
  only : ∀ pip, plan.isOpen pip = false →
    ∃ name wire own, plan.layout.hold? name wire = some (some own) ∧
      ∃ arc ∈ plan.device.entering wire, arc.pip = pip
  dedicated : ∀ name wire own, plan.layout.hold? name wire = some own → plan.Dedicated name wire

theorem isOpen_eq_false_iff {plan : Plan} {pip : PipId} :
    plan.isOpen pip = false ↔ pip ∈ plan.fabric.reserved.blocked := by
  rw [isOpen, Bool.not_eq_false', Std.ExtTreeSet.contains_iff_mem]

/-- Where nobody has a wire and nothing is blocked, there is nothing to seal. -/
theorem Sealed.of_free {plan : Plan} (owned : plan.layout.WiresOwned)
    (free : ∀ wire : WireId, plan.layout.netOnWire[wire]? = none)
    (unblocked : plan.fabric.reserved.blocked = ∅) : plan.Sealed := by
  have nowhere : ∀ name wire own, plan.layout.hold? name wire ≠ some own := by
    intro name wire own held
    rw [owned.hold?_of_free (free wire)] at held
    cases held
  refine ⟨fun name wire pip held => absurd held (nowhere name wire _), fun pip shut => ?_,
    fun name wire own held => absurd held (nowhere name wire own)⟩
  rw [isOpen_eq_false_iff, unblocked] at shut
  exact absurd shut Std.ExtTreeSet.not_mem_empty

theorem Unrouted.sealed {plan : Plan} (unrouted : plan.Unrouted) : plan.Sealed := by
  refine .of_free unrouted.grown.agree.wire_iff (fun wire => ?_) ?_
  · rw [unrouted.wires]
    simp
  · rw [unrouted.unreserved]
    rfl

/-- **What nets gain is sealed with what they had.** -/
theorem Gains.sealed {before after : Plan} {takings : List Taking}
    (gains : before.Gains takings after) (agree : after.layout.WiresAgree) (sealed : before.Sealed)
    (dedicated : ∀ taking ∈ takings, before.Dedicated taking.net taking.wire) : after.Sealed := by
  have device := gains.same.device
  refine ⟨fun name wire pip held => ⟨?_, fun arc enters => ?_⟩, fun pip shut => ?_,
    fun name wire own held => ?_⟩
  · obtain ⟨arc, there, leads⟩ := agree.driven name wire pip held
    have own : arc.pip = pip := Device.pip_of_arc? there
    refine ⟨arc, Device.mem_entering_iff.2 ⟨Device.mem_arcs_iff.2 ?_, leads⟩, own⟩
    rw [own]
    exact there
  · rw [isOpen_eq_false_iff, gains.blocked]
    rw [device] at enters
    rcases (gains.holds name wire _).1 held with old | new
    · exact Or.inl (isOpen_eq_false_iff.1 ((sealed.shut name wire pip old).2 arc enters))
    · exact Or.inr ⟨_, new, by simp, arc, enters, rfl⟩
  · rw [isOpen_eq_false_iff, gains.blocked] at shut
    rw [device]
    rcases shut with old | ⟨⟨name, wire, driver⟩, member, driven, enters⟩
    · obtain ⟨name, wire, own, held, enters⟩ := sealed.only pip (isOpen_eq_false_iff.2 old)
      exact ⟨name, wire, own, gains.keeps held, enters⟩
    · obtain ⟨own, rfl⟩ := Option.ne_none_iff_exists'.1 driven
      exact ⟨name, wire, own, (gains.holds name wire _).2 (Or.inr member), enters⟩
  · rw [gains.same.dedicated_iff]
    rcases (gains.holds name wire own).1 held with old | new
    · exact sealed.dedicated name wire own old
    · exact dedicated _ new

/-- **A pass keeps the seals**, however it ends, and adds its own. -/
theorem Sealed.reserve {plan : Plan} (sealed : plan.Sealed) (laid : plan.Laid) :
    plan.reserveLowSkew.1.plan.Sealed := by
  have owned : plan.layout.WiresOwned := laid.agree.wire_iff
  obtain ⟨takings, last, served, same, _⟩ := passServed owned
  have agree := plan.reserves_reserveLowSkew.agree laid.agree
  rw [same] at agree ⊢
  exact (served.gains owned).sealed agree sealed fun taking member =>
    served.dedicated owned member

theorem Sealed.release {plan : Plan} (laid : plan.Laid) : plan.releaseLowSkew.Sealed :=
  .of_free laid.release.agree.wire_iff laid.free_of_release rfl

theorem Sealed.pass {plan : Plan} (sealed : plan.Sealed) (laid : plan.Laid) {pass : Pass}
    (kept : pass ≠ .unblock) : (plan.pass pass).Sealed := by
  cases pass with
  | reserve => exact sealed.reserve laid
  | release => exact .release laid
  | unblock => exact absurd rfl kept

theorem Sealed.passes (passes : List Pass) : ∀ {plan : Plan}, plan.Sealed → plan.Grown →
    .unblock ∉ passes → (plan.passes passes).Sealed := by
  induction passes with
  | nil => exact fun sealed _ _ => sealed
  | cons pass rest ih =>
      intro plan sealed grown kept
      obtain ⟨first, later⟩ := not_or.1 (mt List.mem_cons.2 kept)
      exact ih (sealed.pass grown.toLaid (Ne.symm first)) (grown.pass pass) later

/-- **Reserved wires are sealed.**  Nothing is routed and nothing reserved; then passes and releases
follow each other in any order, each pass ending well or early, and pips are not opened in between.  At
the end no pip into a wire that a net has by way of a pip is open, the one in use among them; no other
pip is blocked; and nets have no wires but those of the dedicated network and those at their drivers
and targets. -/
theorem sealed_of_passes {plan : Plan} (unrouted : plan.Unrouted) {passes : List Pass}
    (kept : .unblock ∉ passes) : (plan.passes passes).Sealed :=
  .passes passes unrouted.sealed unrouted.grown kept

end Plan

namespace RingSample

/-- The sample after a pass, a release and another pass. -/
theorem sealed_of_threePasses :
    (plan.Unrouted ∧ Plan.Pass.unblock ∉ [.reserve, .release, .reserve]) ∧
      (plan.passes [.reserve, .release, .reserve]).Sealed :=
  ⟨⟨unrouted, by simp⟩, Plan.sealed_of_passes unrouted (by simp)⟩

example : (plan.pass .reserve).isOpen ⟨0, 1⟩ = false := by decide +kernel

end RingSample

end UltraFabric
