/-
# UltraFabric.Proofs.Foresight — looking at moves before they are made

A view shows cells where planned moves put them.  `View.Shows` says that it shows a layout truly: cells
are where the layout has them, and everything else is the same.  A view of a placement shows the layout
in which the placement has been made (`Plan.Committed.shows`).

Three of the checks look at other cells through the view only, or at none: shared multiplexers, settings
and dedicated links.  They find in a view what they find in the layout that it shows
(`groupViolation?_of_shows`, `settingViolation?_of_shows`, `cascadeViolation?_of_shows`).  The other two
read counts, and those do not know of the moves.
-/
import UltraFabric.Proofs.Checks
import UltraFabric.Proofs.Commit

namespace UltraFabric

set_option autoImplicit false

/-- A view shows where the cells of a layout are. -/
structure View.Shows (view : View) (layout : Layout) : Prop where
  device : layout.device = view.layout.device
  nets : ∀ name, layout.net? name = view.layout.net? name
  pips : layout.netOnPip = view.layout.netOnPip
  cells : ∀ name, layout.cell? name =
    (view.layout.cell? name).map fun cell => { cell with bel := layout.belOf? name }
  belOf? : ∀ name, layout.belOf? name = view.belOf? name
  cellOn? : ∀ bel, layout.boundCell? bel =
    (view.cellOn? bel).map fun cell => { cell with bel := some bel }

namespace Plan

section Committed

variable {before after : Plan} {placement : Placement}

theorem Committed.belOf?_eq (committed : before.Committed placement after) (name : Name) :
    after.layout.belOf? name = (View.mk before.layout placement).belOf? name := by
  unfold View.belOf?
  split
  · rename_i own bel found
    have member := List.mem_of_find?_eq_some found
    have same := List.find?_some found
    rw [← of_decide_eq_true same]
    exact committed.there _ member
  · rename_i nowhere
    refine committed.others name fun member => ?_
    obtain ⟨entry, there, rfl⟩ := List.mem_map.1 member
    have absent := List.find?_eq_none.1 nowhere entry there
    simp at absent

/-- Who is on a bel afterwards is on it in the view. -/
theorem Committed.boundCell?_eq (committed : before.Committed placement after)
    (agree : before.layout.BelsAgree) (bel : BelId) :
    after.layout.boundCell? bel = ((View.mk before.layout placement).cellOn? bel).map fun cell =>
      { cell with bel := some bel } := by
  -- Whoever is on the bel is a member that belongs there, or was there before and is no member.
  have origin : ∀ cell, after.layout.boundCell? bel = some cell →
      (∃ entry ∈ placement, entry.2 = bel) ∨ (cell.name ∉ placement.map Prod.fst ∧
        ∃ old, before.layout.boundCell? bel = some old ∧ old.name = cell.name) := by
    intro cell bound
    obtain ⟨found, placed⟩ := committed.agree.bound_iff.1 bound
    have here : after.layout.belOf? cell.name = some bel :=
      Layout.belOf?_eq_some_iff.2 ⟨cell, found, placed⟩
    by_cases member : cell.name ∈ placement.map Prod.fst
    · obtain ⟨entry, there, same⟩ := List.mem_map.1 member
      have arrived := committed.there entry there
      rw [same, here] at arrived
      exact Or.inl ⟨entry, there, (Option.some.inj arrived).symm⟩
    · rw [committed.others cell.name member, ← agree.placed_iff] at here
      exact Or.inr ⟨member, agree.bound_of_cellOn here⟩
  -- Whoever belongs to the bel by name is on it.
  have arrives : ∀ name cell, before.layout.cell? name = some cell →
      after.layout.belOf? name = some bel →
      after.layout.boundCell? bel = some { cell with bel := some bel } := by
    intro name cell found here
    refine Layout.boundCell?_eq_some_iff.2 ⟨name, (committed.agree.placed_iff bel name).2 here, ?_⟩
    rw [committed.moves.cells, found, here]
    rfl
  unfold View.cellOn?
  split
  · rename_i name other found
    have member := List.mem_of_find?_eq_some found
    have same := List.find?_some found
    simp only [decide_eq_true_eq] at same
    have here := committed.there _ member
    simp only [same] at here
    obtain ⟨cell, known, _⟩ := Layout.belOf?_eq_some_iff.1 here
    rw [committed.moves.cells] at known
    obtain ⟨old, known, _⟩ := Option.map_eq_some_iff.1 known
    simp only [known, Option.map_some]
    exact arrives name old known here
  · rename_i unasked
    have nobody : ¬ ∃ entry ∈ placement, entry.2 = bel := by
      rintro ⟨entry, there, rfl⟩
      have absent := List.find?_eq_none.1 unasked entry there
      simp at absent
    split
    · rename_i old bound
      split
      · rename_i leaves
        simp only [List.any_eq_true, decide_eq_true_eq] at leaves
        obtain ⟨entry, there, same⟩ := leaves
        refine Option.eq_none_iff_forall_ne_some.2 fun cell bound' => ?_
        rcases origin cell bound' with here | ⟨outside, other, bound'', names⟩
        · exact nobody here
        · cases bound.symm.trans bound''
          exact outside (List.mem_map.2 ⟨entry, there, same.trans names⟩)
      · rename_i stays
        have outside : old.name ∉ placement.map Prod.fst := by
          intro member
          obtain ⟨entry, there, same⟩ := List.mem_map.1 member
          exact stays (List.any_eq_true.2 ⟨entry, there, by simp [same]⟩)
        obtain ⟨found, placed⟩ := agree.bound_iff.1 bound
        refine arrives old.name old found ?_
        rw [committed.others old.name outside]
        exact Layout.belOf?_eq_some_iff.2 ⟨old, found, placed⟩
    · rename_i empty
      refine Option.eq_none_iff_forall_ne_some.2 fun cell bound' => ?_
      rcases origin cell bound' with here | ⟨_, other, bound'', _⟩
      · exact nobody here
      · cases empty.symm.trans bound''

/-- **The view of a placement shows the layout in which it has been made.** -/
theorem Committed.shows (committed : before.Committed placement after)
    (agree : before.layout.BelsAgree) : (View.mk before.layout placement).Shows after.layout where
  device := committed.moves.device
  nets name := by
    rw [Layout.net?, Netlist.net?, committed.moves.nets]
    rfl
  pips := committed.moves.pips
  cells := committed.moves.cells
  belOf? := committed.belOf?_eq
  cellOn? := committed.boundCell?_eq agree

end Committed

/-! ### What the checks see -/

section Checks

variable {view : View} {layout : Layout}

theorem groupConflict?_of_shows (shows : view.Shows layout) (cell : Cell) (place : Option BelId)
    (bel : BelId) (port net : Name) (index : Nat) :
    groupConflict? ⟨layout, []⟩ { cell with bel := place } bel port net index =
      groupConflict? view cell bel port net index := by
  simp only [groupConflict?, View.cellOn?_unmoved, shows.cellOn?]
  cases view.cellOn? ⟨bel.tile, index⟩ <;> rfl

theorem groupViolation?_of_shows (shows : view.Shows layout) (cell : Cell) (place : Option BelId)
    (bel : BelId) :
    groupViolation? ⟨layout, []⟩ { cell with bel := place } bel = groupViolation? view cell bel := by
  have conflict : ∀ port net, groupConflict? ⟨layout, []⟩ { cell with bel := place } bel port net =
      groupConflict? view cell bel port net :=
    fun port net => funext (groupConflict?_of_shows shows cell place bel port net)
  simp only [groupViolation?, shows.device, conflict]
  rfl

theorem portSetting?_of_shows (shows : view.Shows layout) (bel : BelId) (port : Name) :
    layout.portSetting? bel port = view.layout.portSetting? bel port := by
  have wire : layout.wireSetting? = view.layout.wireSetting? := by
    funext wire
    simp only [Layout.wireSetting?, Layout.pipNet?, shows.device, shows.pips]
  rw [Layout.portSetting?, Layout.portSetting?, wire, shows.device]

theorem settingViolation?_of_shows (shows : view.Shows layout) (cell : Cell) (place : Option BelId)
    (bel : BelId) :
    settingViolation? layout { cell with bel := place } bel =
      settingViolation? view.layout cell bel := by
  have port : portViolation? layout { cell with bel := place } bel =
      portViolation? view.layout cell bel := by
    funext port
    simp only [portViolation?, portSetting?_of_shows shows]
    rfl
  rw [settingViolation?, settingViolation?, port]

theorem isMultiplier_of_shows (shows : view.Shows layout) (name : Name) :
    isMultiplier layout name = isMultiplier view.layout name := by
  rw [isMultiplier, isMultiplier, shows.cells]
  cases view.layout.cell? name <;> rfl

theorem cascadeViolation?_of_shows (shows : view.Shows layout) {before after : Plan}
    (tables : after.fabric.tables = before.fabric.tables) (cell : Cell) (place : Option BelId)
    (bel : BelId) :
    after.cascadeViolation? ⟨layout, []⟩ { cell with bel := place } bel =
      before.cascadeViolation? view cell bel := by
  have place? : ∀ name, (⟨layout, []⟩ : View).belOf? name = view.belOf? name := shows.belOf?
  have input : after.cascadeInputViolation? ⟨layout, []⟩ { cell with bel := place } bel =
      before.cascadeInputViolation? view cell bel := by
    funext port net
    simp only [cascadeInputViolation?, isMultiplier_of_shows shows, place?, tables]
  have output : after.cascadeOutputViolation? ⟨layout, []⟩ { cell with bel := place } bel =
      before.cascadeOutputViolation? view cell bel := by
    funext port net
    simp only [cascadeOutputViolation?, isMultiplier_of_shows shows, place?, tables]
  have nets : layout.net? = view.layout.net? := funext shows.nets
  simp only [cascadeViolation?, input, output, nets]

end Checks

end Plan

end UltraFabric
