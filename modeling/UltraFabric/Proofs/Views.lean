/-
# UltraFabric.Proofs.Views — a view of moves, and the layout after them

`Layout.relocate` makes moves in a layout alone: cells are taken off their bels, in any order, and then
put on others.  Nothing is counted by that; for a plan it is what happens to its layout when the moves
are committed (`layout_commit`).

A view of the moves shows this layout (`shows_relocate`): where every cell is, who is on every bel, with
swaps and chains among the moved cells.  So the checks that look at others through a view only say of
each cell what they say of it in the layout after the moves (`view_exact`).
-/
import UltraFabric.Proofs.Bindings
import UltraFabric.Proofs.Foresight
import UltraFabric.Proofs.Run

namespace UltraFabric

set_option autoImplicit false

namespace Layout

/-- Takes a cell off its bel, if it is on one. -/
def takeOff (layout : Layout) (name : Name) : Layout :=
  match layout.belOf? name with
  | some bel => layout.change (.unbindBel bel)
  | none => layout

/-- Puts a cell on a bel. -/
def putOn (layout : Layout) (entry : Name × BelId) : Layout :=
  layout.change (.bindBel entry.2 entry.1)

/-- Takes some cells off their bels, and then puts cells on bels. -/
def relocate (layout : Layout) (leaving : List Name) (arriving : Placement) : Layout :=
  arriving.foldl putOn (leaving.foldl takeOff layout)

end Layout

namespace Plan

/-! ### Moves of a plan and of its layout -/

theorem layout_bind (plan : Plan) (bel : BelId) (name : Name) :
    (plan.bind bel name).2.layout = plan.layout.change (.bindBel bel name) := by
  have made : plan.layout.change (.bindBel bel name) =
      (plan.layout.bindBel? bel name).getD plan.layout := rfl
  rw [made, bind]
  cases bound : plan.layout.bindBel? bel name with
  | none =>
      split
      · rfl
      · split
        · simp only [layout_track, bound, Option.getD_none]
        · rfl
  | some layout =>
      split
      · exact layout_track _ _ _ _
      · have free : plan.layout.isFree bel = true := by
          by_contra occupied
          have refused : plan.layout.bindBel? bel name = none :=
            Layout.bindBel?_eq_none_iff.2 (Or.inr (Or.inl (Bool.eq_false_iff.2 occupied)))
          cases refused.symm.trans bound
        simp only [free, if_true, layout_track, bound, Option.getD_some]

theorem layout_unbind {plan : Plan} (agree : plan.layout.BelsAgree) (bel : BelId) :
    (plan.unbind bel).2.layout = plan.layout.change (.unbindBel bel) := by
  have made : plan.layout.change (.unbindBel bel) =
      ((plan.layout.unbindBel? bel).map Prod.snd).getD plan.layout := rfl
  rw [made]
  rcases unbind_cases agree bel with ⟨empty, same⟩ | ⟨cell, bound, same⟩
  · have nobody : plan.layout.cellOn[bel]? = none := by
      refine Option.eq_none_iff_forall_ne_some.2 fun name occupied => ?_
      obtain ⟨cell, bound, _⟩ := agree.bound_of_cellOn occupied
      cases empty.symm.trans bound
    rw [same, Layout.unbindBel?, nobody]
    rfl
  · rw [same, Layout.unbindBel?_bound agree bound]
    rfl

theorem layout_takeOff {plan : Plan} (agree : plan.layout.BelsAgree) (name : Name) :
    (plan.takeOff name).layout = plan.layout.takeOff name := by
  rw [takeOff, Layout.takeOff]
  cases plan.layout.belOf? name with
  | none => rfl
  | some bel => exact layout_unbind agree bel

theorem layout_takeOffs (names : List Name) :
    ∀ {plan : Plan}, plan.layout.BelsAgree →
      (names.foldl takeOff plan).layout = names.foldl Layout.takeOff plan.layout := by
  induction names with
  | nil => exact fun _ => rfl
  | cons name rest ih =>
      intro plan agree
      rw [List.foldl_cons, List.foldl_cons, ih (lifted_takeOff agree name).agree,
        layout_takeOff agree]

theorem layout_putOns (placement : Placement) :
    ∀ plan : Plan, (placement.foldl putOn plan).layout = placement.foldl Layout.putOn plan.layout := by
  induction placement with
  | nil => exact fun _ => rfl
  | cons entry rest ih =>
      intro plan
      rw [List.foldl_cons, List.foldl_cons, ih, putOn, layout_bind, Layout.putOn]

/-- **Making moves in a plan makes them in its layout.** -/
theorem layout_commit {plan : Plan} (agree : plan.layout.BelsAgree) (leaving : List Name)
    (arriving : Placement) :
    (plan.commit leaving arriving).layout = plan.layout.relocate leaving arriving := by
  rw [commit, layout_putOns, layout_takeOffs leaving agree, Layout.relocate]

end Plan

/-! ### What a view shows -/

/-- A view has cells of the layout. -/
theorem View.cell?_of_cellOn? {view : View} (agree : view.layout.BelsAgree) {bel : BelId} {cell : Cell}
    (seen : view.cellOn? bel = some cell) : view.layout.cell? cell.name = some cell := by
  unfold View.cellOn? at seen
  split at seen
  · rename_i name _ _
    rw [agree.named name cell seen]
    exact seen
  · split at seen
    · rename_i own bound
      split at seen
      · cases seen
      · cases seen
        exact (agree.bound_iff.1 bound).1
    · cases seen

/-- Whoever is on a bel is the cell that the view has there, but for the bel that it names itself. -/
theorem View.Shows.seen {view : View} {layout : Layout} (shows : view.Shows layout) {bel : BelId}
    {moved : Cell} (bound : layout.boundCell? bel = some moved) :
    ∃ cell, view.cellOn? bel = some cell ∧ moved = { cell with bel := some bel } := by
  rw [shows.cellOn?] at bound
  obtain ⟨cell, seen, rfl⟩ := Option.map_eq_some_iff.1 bound
  exact ⟨cell, seen, rfl⟩

namespace Plan

section Relocated

variable {plan : Plan} {placement arriving : Placement} {leaving : List Name}

/-- **The view of some moves shows the layout after them.** -/
theorem shows_relocate (agree : plan.layout.BelsAgree) (makeable : plan.Makeable placement)
    (all : leaving.Perm (placement.map Prod.fst)) (same : arriving.Perm placement) :
    (View.mk plan.layout placement).Shows (plan.layout.relocate leaving arriving) := by
  rw [← layout_commit agree]
  exact (committed_commit agree makeable all same).shows agree

/-- **Views are exact for shared multiplexers and dedicated links.**  Some cells are to move to bels that
are empty or held by cells that move as well.  Where the view has each cell, and whom it has on each
bel, is so in the layout after the moves, in whatever order they are made; and of everyone who is on a
bel then, the checks say under the view what they say afterwards. -/
theorem view_exact (agree : plan.layout.BelsAgree) (makeable : plan.Makeable placement)
    (all : leaving.Perm (placement.map Prod.fst)) (same : arriving.Perm placement) :
    let view : View := ⟨plan.layout, placement⟩
    let after := plan.layout.relocate leaving arriving
    (∀ name, view.belOf? name = after.belOf? name) ∧
    (∀ bel, (view.cellOn? bel).map (fun cell => { cell with bel := some bel }) =
      after.boundCell? bel) ∧
    ∀ bel moved, after.boundCell? bel = some moved →
      ∃ cell, view.cellOn? bel = some cell ∧ plan.cell? moved.name = some cell ∧
        (groupViolation? view cell bel).or (settingViolation? plan.layout cell bel) =
          (groupViolation? ⟨after, []⟩ moved bel).or (settingViolation? after moved bel) ∧
        plan.cascadeViolation? view cell bel = plan.cascadeViolation? ⟨after, []⟩ moved bel := by
  intro view after
  have shows : view.Shows after := shows_relocate agree makeable all same
  refine ⟨fun name => (shows.belOf? name).symm, fun bel => (shows.cellOn? bel).symm,
    fun bel moved bound => ?_⟩
  obtain ⟨cell, seen, rfl⟩ := shows.seen bound
  have known : view.layout.cell? cell.name = some cell := View.cell?_of_cellOn? agree seen
  refine ⟨cell, seen, known, ?_, ?_⟩
  · rw [groupViolation?_of_shows shows, settingViolation?_of_shows shows]
  · rw [cascadeViolation?_of_shows shows rfl]

end Relocated

end Plan

namespace Sample

/-- The pad and the flip-flop change places, and the other pad comes to a free bel. -/
def exchange : Placement :=
  [("left", ⟨0, 3⟩), ("flop", ⟨0, 0⟩), ("right", ⟨0, 1⟩)]

theorem exchange_makeable : plan.Makeable exchange := by
  refine ⟨by decide, by decide, ?_, ?_, ?_⟩
  · simp only [exchange, List.forall_mem_cons]
    exact ⟨⟨leftPad, by with_unfolding_all rfl⟩, ⟨flipFlop, by with_unfolding_all rfl⟩,
      ⟨rightPad, by with_unfolding_all rfl⟩, by simp⟩
  · decide +kernel
  · have held : exchange.map (fun entry => plan.layout.cellOn[entry.2]?) =
        [some "flop", some "left", none] := by decide +kernel
    simp only [exchange, List.map_cons, List.map_nil, List.cons.injEq, and_true] at held
    simp [exchange, held]

/-- The view of the exchange, and the layout after it. -/
theorem exchange_seen :
    plan.layout.BelsAgree ∧ plan.Makeable exchange ∧
      (∀ name, (View.mk plan.layout exchange).belOf? name =
        (plan.layout.relocate ["flop", "right", "left"] exchange).belOf? name) ∧
      ∀ bel, ((View.mk plan.layout exchange).cellOn? bel).map
          (fun cell => { cell with bel := some bel }) =
        (plan.layout.relocate ["flop", "right", "left"] exchange).boundCell? bel :=
  have exact' := Plan.view_exact started.consistent.1 exchange_makeable
    (by decide : ["flop", "right", "left"].Perm (exchange.map Prod.fst)) (.refl exchange)
  ⟨started.consistent.1, exchange_makeable, exact'.1, exact'.2.1⟩

end Sample

end UltraFabric
