/-
# UltraFabric.Proofs.Cycles — placing ends, also where families go round in circles

Nothing keeps a cell from being among its own descendants, and whoever places a family from parent to
child does not look whom he has met before.  It ends because each cell that is placed takes a bel that
nobody has (`placeWaiting_vacant`), and a device has only so many.

The same bound holds for a recursion that goes down to the children of each cell before it turns to the
next one (`placeNested`).  It is given a depth beyond which it does not go.  A depth of one more than
there are vacant bels is never reached, and the answer is the one of the list of those who wait
(`placeNested_eq`).

A family in a circle never gets a place, however many bels there are.  What has been placed for a cell
holds, behind that cell, what has been placed for each of its children (`Unfolds.child`); if the cell
were among its own descendants, it would hold something shorter of the same kind, and so on without an
end (`Unfolds.not_circular`).  `placing_ends` says both.
-/
import UltraFabric.Proofs.RollCall
import UltraFabric.Proofs.StrictChecks

namespace UltraFabric

set_option autoImplicit false

/-- Placing a cell where a bel has been found leaves fewer bels. -/
theorem Device.vacant_lt_of_belAt? (device : Device) {placement : Placement} (name : Name)
    {location : Loc} {bel : BelId} (there : device.belAt? location = some bel)
    (unused : ¬ placement.any (·.2 = bel) = true) :
    device.vacant (placement ++ [(name, bel)]) < device.vacant placement := by
  obtain ⟨info, listed⟩ := exists_mem_bels_of_belAt? there
  exact vacant_lt listed unused

namespace Plan

/-! ### Placing step by step -/

section Steps

variable {plan : Plan} {suits : Suits} {next : Waiting} {rest : List Waiting} {placement : Placement}
  {cell : Cell} {bel : BelId}

theorem placeWaiting_of_unknown (unknown : plan.cell? next.name = none) :
    plan.placeWaiting suits (next :: rest) placement = .ok (false, placement) := by
  rw [placeWaiting]
  simp only [unknown]

theorem placeWaiting_of_nowhere (known : plan.cell? next.name = some cell)
    (nowhere : plan.device.belAt? (cell.locationFrom next.parent) = none) :
    plan.placeWaiting suits (next :: rest) placement = .ok (false, placement) := by
  rw [placeWaiting]
  simp only [known]
  split
  · rfl
  · rename_i bel found
    cases nowhere.symm.trans found

/-- What is done with a cell whose bel has been found. -/
theorem placeWaiting_of_there (known : plan.cell? next.name = some cell)
    (there : plan.device.belAt? (cell.locationFrom next.parent) = some bel) :
    plan.placeWaiting suits (next :: rest) placement =
      if placement.any (·.2 = bel) = true then .ok (false, placement)
      else
        match suits cell bel (placement ++ [(cell.name, bel)]) with
        | .error fault => .error fault
        | .ok false => .ok (false, placement ++ [(cell.name, bel)])
        | .ok true =>
          plan.placeWaiting suits (cell.waitingChildren (cell.locationFrom next.parent) ++ rest)
            (placement ++ [(cell.name, bel)]) := by
  rw [placeWaiting]
  simp only [known]
  split
  · rename_i nowhere
    cases there.symm.trans nowhere
  · rename_i other found
    cases there.symm.trans found
    rfl

/-- **Those that wait are placed part by part**: the second part, if the first one has been placed. -/
theorem placeWaiting_append (first second : List Waiting) (placement : Placement) :
    plan.placeWaiting suits (first ++ second) placement =
      match plan.placeWaiting suits first placement with
      | .ok (true, after) => plan.placeWaiting suits second after
      | answer => answer := by
  fun_induction placeWaiting plan suits first placement with
  | case1 placement => rfl
  | case2 placement next rest unknown => exact placeWaiting_of_unknown unknown
  | case3 placement next rest cell known nowhere => exact placeWaiting_of_nowhere known nowhere
  | case4 placement next rest cell known bel there taken =>
      rw [List.cons_append, placeWaiting_of_there known there, if_pos taken]
  | case5 placement next rest cell known bel there unused fault undecided =>
      rw [List.cons_append, placeWaiting_of_there known there, if_neg unused, undecided]
  | case6 placement next rest cell known bel there unused unfit =>
      rw [List.cons_append, placeWaiting_of_there known there, if_neg unused, unfit]
  | case7 placement next rest cell known bel there unused fits ih =>
      rw [List.cons_append, placeWaiting_of_there known there, if_neg unused, fits, ← ih,
        List.append_assoc]

end Steps

/-! ### Each cell takes a new bel -/

/-- **However placing ends, each cell that was placed has taken a bel that was vacant.** -/
theorem placeWaiting_vacant {plan : Plan} {suits : Suits} (waiting : List Waiting)
    (placement : Placement) {done : Bool} {after : Placement}
    (placed : plan.placeWaiting suits waiting placement = .ok (done, after)) :
    ∃ more, after = placement ++ more ∧
      plan.device.vacant after + more.length ≤ plan.device.vacant placement := by
  fun_induction placeWaiting plan suits waiting placement with
  | case5 placement next rest cell known bel there unused fault undecided => cases placed
  | case6 placement next rest cell known bel there unused unfit =>
      cases placed
      exact ⟨[(cell.name, bel)], rfl, plan.device.vacant_lt_of_belAt? cell.name there unused⟩
  | case7 placement next rest cell known bel there unused fits ih =>
      obtain ⟨more, rfl, within⟩ := ih placed
      refine ⟨(cell.name, bel) :: more, List.append_assoc _ _ _, ?_⟩
      have fewer := plan.device.vacant_lt_of_belAt? cell.name there unused
      rw [List.length_cons]
      omega
  | _ =>
      cases placed
      exact ⟨[], (List.append_nil _).symm, Nat.le_refl _⟩

/-! ### Going down -/

/-- Places cells relative to their parent, one after the other, and goes down to the children of each
with `deeper` before it turns to the next. -/
def placeEach (plan : Plan)
    (deeper : Loc → List Name → Placement → Option (Answer (Bool × Placement))) (parent : Loc) :
    List Name → Placement → Option (Answer (Bool × Placement))
  | [], placement => some (.ok (true, placement))
  | name :: rest, placement =>
    match plan.cell? name with
    | none => some (.ok (false, placement))
    | some cell =>
      match plan.device.belAt? (cell.locationFrom parent) with
      | none => some (.ok (false, placement))
      | some bel =>
        if placement.any (·.2 = bel) then some (.ok (false, placement))
        else
          match plan.memberFits cell bel (placement ++ [(cell.name, bel)]) with
          | .error fault => some (.error fault)
          | .ok false => some (.ok (false, placement ++ [(cell.name, bel)]))
          | .ok true =>
            match deeper (cell.locationFrom parent) cell.children
              (placement ++ [(cell.name, bel)]) with
            | some (.ok (true, after)) => placeEach plan deeper parent rest after
            | answer => answer

/-- Places cells and their families relative to a parent, down to a depth.  There is no answer if the
families go deeper. -/
def placeNested (plan : Plan) : Nat → Loc → List Name → Placement →
    Option (Answer (Bool × Placement))
  | 0 => fun _ _ _ => none
  | depth + 1 => plan.placeEach (placeNested plan depth)

/-- **Families go down no deeper than there are vacant bels**, and going down places them like waiting
in a list. -/
theorem placeNested_eq (plan : Plan) (depth : Nat) :
    ∀ (parent : Loc) (names : List Name) (placement : Placement),
      plan.device.vacant placement < depth →
        plan.placeNested depth parent names placement =
          some (plan.placeWaiting plan.memberFits (names.map fun name => ⟨name, parent⟩) placement) := by
  induction depth with
  | zero => exact fun _ _ _ enough => absurd enough (Nat.not_lt_zero _)
  | succ depth deeper =>
      intro parent names placement enough
      rw [placeNested]
      -- a cell that has its bel leaves fewer vacant ones to its children
      have below : ∀ {cell : Cell} {bel : BelId} {placement : Placement},
          plan.device.belAt? (cell.locationFrom parent) = some bel →
          ¬ placement.any (·.2 = bel) = true → plan.device.vacant placement < depth + 1 →
          plan.placeNested depth (cell.locationFrom parent) cell.children
              (placement ++ [(cell.name, bel)]) =
            some (plan.placeWaiting plan.memberFits (cell.waitingChildren (cell.locationFrom parent))
              (placement ++ [(cell.name, bel)])) := by
        intro cell bel placement there unused enough
        have fewer := plan.device.vacant_lt_of_belAt? cell.name there unused
        exact deeper _ _ _ (by omega)
      fun_induction placeEach plan (plan.placeNested depth) parent names placement with
      | case1 placement => rw [List.map_nil, placeWaiting]
      | case2 name rest placement unknown => rw [List.map_cons, placeWaiting_of_unknown unknown]
      | case3 name rest placement cell known nowhere =>
          rw [List.map_cons, placeWaiting_of_nowhere known nowhere]
      | case4 name rest placement cell known bel there taken =>
          rw [List.map_cons, placeWaiting_of_there known there, if_pos taken]
      | case5 name rest placement cell known bel there unused fault undecided =>
          rw [List.map_cons, placeWaiting_of_there known there, if_neg unused, undecided]
      | case6 name rest placement cell known bel there unused unfit =>
          rw [List.map_cons, placeWaiting_of_there known there, if_neg unused, unfit]
      | case7 name rest placement cell known bel there unused fits after family ih =>
          rw [below there unused enough, Option.some.injEq] at family
          have fewer := plan.device.vacant_lt_of_belAt? cell.name there unused
          obtain ⟨more, rfl, within⟩ := placeWaiting_vacant _ _ family
          rw [List.map_cons, placeWaiting_of_there known there, if_neg unused, fits,
            placeWaiting_append]
          simp only [family]
          exact ih (by omega)
      | case8 name rest placement cell known bel there unused fits other =>
          rw [List.map_cons, placeWaiting_of_there known there, if_neg unused, fits,
            placeWaiting_append]
          simp only
          rw [below there unused enough] at other ⊢
          split
          · rename_i after family
            exact absurd (congrArg some family) (other after)
          · rfl

/-! ### Families in a circle -/

section Circles

variable {plan : Plan} {name lower : Name} {location : Loc} {placement : Placement}

/-- Behind a cell something shorter has been placed for each of its children. -/
theorem Unfolds.child (unfolds : plan.Unfolds [⟨name, location⟩] placement)
    (below : plan.IsChild name lower) :
    ∃ place part, plan.Unfolds [⟨lower, place⟩] part ∧ part.length < placement.length := by
  cases unfolds with
  | @next _ _ cell bel rest found there later =>
      have waits : ⟨lower, cell.locationFrom location⟩ ∈
          cell.waitingChildren (cell.locationFrom location) :=
        (mem_waitingChildren_iff found).2 ⟨below, rfl⟩
      obtain ⟨part, own, within⟩ := later.of_mem (List.mem_append_left _ waits)
      exact ⟨_, part, own, Nat.lt_succ_of_le within⟩

theorem Unfolds.further (unfolds : plan.Unfolds [⟨name, location⟩] placement)
    (below : Relation.TransGen plan.IsChild name lower) :
    ∃ place part, plan.Unfolds [⟨lower, place⟩] part ∧ part.length < placement.length := by
  induction below with
  | single child => exact unfolds.child child
  | tail _ child ih =>
      obtain ⟨place, part, own, shorter⟩ := ih
      obtain ⟨place', part', own', shorter'⟩ := own.child child
      exact ⟨place', part', own', Nat.lt_trans shorter' shorter⟩

/-- **Whoever is placed is not among its own descendants.** -/
theorem Unfolds.not_circular (unfolds : plan.Unfolds [⟨name, location⟩] placement) :
    ¬ Relation.TransGen plan.IsChild name name := by
  intro circle
  induction size : placement.length using Nat.strong_induction_on generalizing location placement with
  | h size ih =>
      subst size
      obtain ⟨place, part, again, shorter⟩ := unfolds.further circle
      exact ih part.length shorter again rfl

/-- A circle in a family can be reached through one of the children. -/
theorem exists_child_of_circle (descends : plan.Descends name lower)
    (circle : Relation.TransGen plan.IsChild lower lower) :
    ∃ child, plan.IsChild name child ∧
      ∃ lower, plan.Descends child lower ∧ Relation.TransGen plan.IsChild lower lower := by
  rcases Relation.ReflTransGen.cases_head descends with rfl | ⟨child, first, rest⟩
  · obtain ⟨child, first, back⟩ := Relation.TransGen.head'_iff.1 circle
    exact ⟨child, first, child, .refl, .tail' back first⟩
  · exact ⟨child, first, lower, rest, circle⟩

/-- **A family with a circle in it is not placed from parent to child.** -/
theorem not_unfolds_of_circle {root : Cell} (found : plan.cell? name = some root)
    (descends : plan.Descends name lower) (circle : Relation.TransGen plan.IsChild lower lower) :
    ¬ plan.Unfolds (root.waitingChildren location) placement := by
  intro unfolds
  obtain ⟨child, first, lower, rest, circle⟩ := exists_child_of_circle descends circle
  have waits : ⟨child, location⟩ ∈ root.waitingChildren location :=
    (mem_waitingChildren_iff found).2 ⟨first, rfl⟩
  obtain ⟨part, own, _⟩ := unfolds.of_mem waits
  rcases Relation.reflTransGen_iff_eq_or_transGen.1 rest with rfl | below
  · exact own.not_circular circle
  · obtain ⟨place, part, again, _⟩ := own.further below
    exact again.not_circular circle

end Circles

/-! ### Placing ends -/

/-- **Placing ends with every netlist.**  For the children of a cell there is always an answer, and it
adds no more cells than the device has bels; going down from parent to child meets with the same answer
before it is deeper than that.  A family with a circle in it is not placed, whichever bel is asked for. -/
theorem placing_ends {plan : Plan}
    (there : ClockBuffer.OnDevice plan.device plan.fabric.tables.buffers) :
    (∀ (parent : Cell) (location : Loc) (placement : Placement), ∃ done more,
      plan.placeChildren parent location placement = .ok (done, placement ++ more) ∧
        more.length ≤ plan.device.bels.length ∧
        ∀ depth, plan.device.bels.length < depth →
          plan.placeNested depth location parent.children placement =
            some (.ok (done, placement ++ more))) ∧
    ∀ (cluster : Name) (root : Cell) (bel : BelId), plan.cell? cluster = some root →
      root.type ≠ "DSP" →
      (∃ name, plan.Descends cluster name ∧ Relation.TransGen plan.IsChild name name) →
        plan.place? cluster bel = .ok none := by
  constructor
  · intro parent location placement
    obtain ⟨⟨done, after⟩, answer⟩ :=
      placeWaiting_total there (parent.waitingChildren location) placement
    obtain ⟨more, rfl, within⟩ := placeWaiting_vacant _ _ answer
    have vacant : plan.device.vacant placement ≤ plan.device.bels.length :=
      List.length_filter_le _ _
    refine ⟨done, more, answer, by omega, fun depth enough => ?_⟩
    rw [plan.placeNested_eq depth _ _ _ (Nat.lt_of_le_of_lt vacant enough)]
    exact congrArg some answer
  · rintro cluster root bel found other ⟨name, descends, circle⟩
    obtain ⟨answer, placed⟩ := place?_total there cluster bel
    cases answer with
    | none => exact placed
    | some placement =>
        obtain ⟨_, _, location, found', _, ⟨linked, _⟩ | ⟨_, more, _, unfolds⟩⟩ :=
          place?_cases placed
        · cases found.symm.trans found'
          exact absurd linked.1 other
        · cases found.symm.trans found'
          exact absurd unfolds (not_unfolds_of_circle found descends circle)

end Plan

namespace FamilySample

/-- The head of a family in which two cells are each other's children. -/
def circleRoot : Cell :=
  member "start" "XLUT" ["hare"] 0

theorem circleRoot_found : plan.cell? "start" = some circleRoot := by
  with_unfolding_all rfl

/-- Hare and tortoise take the bels above the start in turn, until there are no more; there is no
placement for them. -/
theorem circle_ends :
    ClockBuffer.OnDevice plan.device plan.fabric.tables.buffers ∧
      plan.placeChildren circleRoot ⟨0, 0, 0⟩ [("start", ⟨0, 0⟩)] =
        .ok (false, [("start", ⟨0, 0⟩), ("hare", ⟨0, 1⟩), ("tortoise", ⟨0, 2⟩), ("hare", ⟨0, 3⟩),
          ("tortoise", ⟨0, 4⟩)]) ∧
      (∃ done more, plan.placeNested 8 ⟨0, 0, 0⟩ circleRoot.children [("start", ⟨0, 0⟩)] =
        some (.ok (done, ("start", ⟨0, 0⟩) :: more))) ∧
      plan.place? "start" ⟨0, 0⟩ = .ok none := by
  have onDevice := started.prepared.onDevice
  obtain ⟨ends, circles⟩ := Plan.placing_ends onDevice
  have hare : plan.IsChild "start" "hare" := by decide +kernel
  have tortoise : plan.IsChild "hare" "tortoise" := by decide +kernel
  have again : plan.IsChild "tortoise" "hare" := by decide +kernel
  obtain ⟨done, more, _, _, nested⟩ := ends circleRoot ⟨0, 0, 0⟩ [("start", ⟨0, 0⟩)]
  exact ⟨onDevice, by with_unfolding_all rfl, ⟨done, more, nested 8 (by decide +kernel)⟩,
    circles "start" circleRoot ⟨0, 0⟩ circleRoot_found (by decide)
      ⟨"hare", .single hare, .tail (.single tortoise) again⟩⟩

end FamilySample

end UltraFabric
