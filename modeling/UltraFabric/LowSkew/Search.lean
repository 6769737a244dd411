/-
# UltraFabric.LowSkew.Search — a path over dedicated clock wires

A clock net grows from the wires it already has to the wire of a sink, over wires of the dedicated
clock network. The search goes outwards in rounds, one pip further in each: a round holds the wires
found in the last one, each with the path that leads to it, so the first path that reaches the sink
has as few pips as possible. It ends because every round finds new wires (`unseen_lt`).
-/
import UltraFabric.Plan
import UltraFabric.Shrinking

namespace UltraFabric

set_option autoImplicit false

namespace Device

/-- How many pips of a device lead to wires that have not been seen. -/
def unseen (device : Device) (seen : Std.ExtTreeSet WireId) : Nat :=
  (device.arcs.filter fun arc => ! seen.contains arc.target).length

end Device

/-- A wire that has been found, and the pips that lead to it, the last one first. -/
structure Reached where
  wire : WireId
  path : List Arc
  deriving DecidableEq, Repr

namespace Plan

/-- Whether the bel that a pip leads through, if there is one, is empty. -/
def crossingFree (plan : Plan) (arc : Arc) : Bool :=
  match arc.crossedBel? with
  | some bel => plan.layout.isFree bel
  | none => true

/-- Whether a wire belongs to the dedicated clock network. -/
def isLowSkewWire (plan : Plan) (wire : WireId) : Bool :=
  match plan.device.wire? wire with
  | some info => info.isLowSkew
  | none => false

/-- Whether a pip is open to everyone. -/
def isOpen (plan : Plan) (pip : PipId) : Bool :=
  ! plan.fabric.reserved.blocked.contains pip

/-- `admits` from whether the wire that the pip leads to is of the dedicated clock network. -/
def admitsAs (plan : Plan) (net : Name) (target : WireId) (arc : Arc) (isLowSkew : Bool) : Bool :=
  plan.isOpen arc.pip && (plan.layout.pipNet? arc.pip).isNone &&
    (arc.target = target || isLowSkew) &&
    (match plan.layout.wireNet? arc.target with
      | some other => other = net
      | none => true) &&
    plan.crossingFree arc

/-- Whether a net on its way to `target` may use a pip. -/
def admits (plan : Plan) (net : Name) (target : WireId) (arc : Arc) : Bool :=
  plan.admitsAs net target arc (plan.isLowSkewWire arc.target)

/-- What a round has found so far, in order, and every wire that has been seen. -/
structure Round where
  found : List Reached
  seen : Std.ExtTreeSet WireId

section Rounds

variable {m : Type → Type} [Monad m]

/-- Goes along the pips that leave a wire which `path` leads to, asking of each whether it may be
used. -/
def exploreBy (admits : Arc → m Bool) (path : List Arc) : List Arc → Round → m Round
  | [], round => return round
  | arc :: rest, round => do
    let admitted ← admits arc
    exploreBy admits path rest <|
      if admitted && ! round.seen.contains arc.target then
        ⟨round.found ++ [⟨arc.target, arc :: path⟩], round.seen.insert arc.target⟩
      else round

/-- One round: everything that is one pip further than the last one. -/
def exploreAllBy (device : Device) (admits : Arc → m Bool) : List Reached → Round → m Round
  | [], round => return round
  | reached :: rest, round => do
    let round ← exploreBy admits reached.path (device.leaving reached.wire) round
    exploreAllBy device admits rest round

end Rounds

/-- `exploreBy` of what `admits` says of a plan. -/
def explore (plan : Plan) (net : Name) (target : WireId) (path arcs : List Arc) (round : Round) :
    Round :=
  Id.run (exploreBy (fun arc => return plan.admits net target arc) path arcs round)

/-- `exploreAllBy` of what `admits` says of a plan. -/
def exploreAll (plan : Plan) (net : Name) (target : WireId) (reached : List Reached)
    (round : Round) : Round :=
  Id.run (exploreAllBy plan.device (fun arc => return plan.admits net target arc) reached round)

section Rounds

variable (plan : Plan) (net : Name) (target : WireId)

theorem explore_nil (path : List Arc) (round : Round) :
    plan.explore net target path [] round = round := rfl

theorem explore_cons (path : List Arc) (arc : Arc) (rest : List Arc) (round : Round) :
    plan.explore net target path (arc :: rest) round =
      plan.explore net target path rest
        (if plan.admits net target arc && ! round.seen.contains arc.target then
          ⟨round.found ++ [⟨arc.target, arc :: path⟩], round.seen.insert arc.target⟩
        else round) := rfl

theorem exploreAll_nil (round : Round) : plan.exploreAll net target [] round = round := rfl

theorem exploreAll_cons (reached : Reached) (rest : List Reached) (round : Round) :
    plan.exploreAll net target (reached :: rest) round =
      plan.exploreAll net target rest
        (plan.explore net target reached.path (plan.device.leaving reached.wire) round) := rfl

end Rounds

/-- A round may be the same as before, or has seen more. -/
def Progress (device : Device) (before after : Round) : Prop :=
  after = before ∨ device.unseen after.seen < device.unseen before.seen

theorem Progress.trans {device : Device} {a b c : Round} (h₁ : Progress device a b)
    (h₂ : Progress device b c) : Progress device a c := by
  rcases h₁ with rfl | h₁
  · exact h₂
  · rcases h₂ with rfl | h₂
    · exact Or.inr h₁
    · exact Or.inr (Nat.lt_trans h₂ h₁)

/-- Seeing the target of a pip leaves fewer pips that lead to something new. -/
theorem unseen_lt {device : Device} {seen : Std.ExtTreeSet WireId} {arc : Arc}
    (there : arc ∈ device.arcs) (new : seen.contains arc.target = false) :
    device.unseen (seen.insert arc.target) < device.unseen seen := by
  unfold Device.unseen
  refine Shrinking.length_filter_lt (fun other h => ?_) there ?_ ?_
  · rw [Std.ExtTreeSet.contains_insert, Bool.not_or, Bool.and_eq_true] at h
    exact h.2
  · rw [new]; rfl
  · rw [Std.ExtTreeSet.contains_insert_self]; rfl

theorem progress_explore (plan : Plan) (net : Name) (target : WireId) (path : List Arc)
    (arcs : List Arc) (there : ∀ arc ∈ arcs, arc ∈ plan.device.arcs) (round : Round) :
    Progress plan.device round (plan.explore net target path arcs round) := by
  induction arcs generalizing round with
  | nil => exact Or.inl rfl
  | cons arc rest ih =>
      rw [explore_cons]
      refine Progress.trans ?_ (ih (fun other h => there other (List.mem_cons_of_mem _ h)) _)
      split
      · rename_i h
        simp only [Bool.and_eq_true, Bool.not_eq_true'] at h
        exact Or.inr (unseen_lt (there arc List.mem_cons_self) h.2)
      · exact Or.inl rfl

theorem progress_exploreAll (plan : Plan) (net : Name) (target : WireId)
    (reached : List Reached) (round : Round) :
    Progress plan.device round (plan.exploreAll net target reached round) := by
  induction reached generalizing round with
  | nil => exact Or.inl rfl
  | cons first rest ih =>
      rw [exploreAll_cons]
      refine Progress.trans (progress_explore plan net target first.path _ ?_ round) (ih _)
      intro arc h
      rw [Device.leaving_eq_filter] at h
      exact (List.mem_filter.1 h).1

/-- Searches on from the wires of the last round. -/
def searchFrom (plan : Plan) (net : Name) (target : WireId) (reached : List Reached)
    (seen : Std.ExtTreeSet WireId) : Option (List Arc) :=
  match reached.find? (·.wire = target) with
  | some goal => some goal.path.reverse
  | none =>
    if _stuck : (plan.exploreAll net target reached ⟨[], seen⟩).found = [] then none
    else
      searchFrom plan net target (plan.exploreAll net target reached ⟨[], seen⟩).found
        (plan.exploreAll net target reached ⟨[], seen⟩).seen
  termination_by plan.device.unseen seen
  decreasing_by
    rcases progress_exploreAll plan net target reached ⟨[], seen⟩ with same | less
    · rw [same] at _stuck
      exact absurd rfl _stuck
    · exact less

/-- The wires that a net has. -/
def treeOf (plan : Plan) (net : Name) : List WireId :=
  match plan.net? net with
  | some net => net.wires.keys
  | none => []

/-- The pips of a shortest path from the wires of a net to `target`, from there on. -/
def searchPath? (plan : Plan) (net : Name) (target : WireId) : Option (List Arc) :=
  let tree := plan.treeOf net
  plan.searchFrom net target (tree.map fun wire => ⟨wire, []⟩) (Std.ExtTreeSet.ofList tree)

end Plan

end UltraFabric
