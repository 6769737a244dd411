/-
# UltraFabric.Proofs.Offsets — where the members of a cluster stand

The location of a child is reckoned from the location of its parent, on and on down the family, and each
location is then turned into a bel.  What is found at a location is a bel at that location
(`location?_of_belAt?`), so the offsets hold between the bels as well, wherever the family has got to by
then (`Unfolds.stands`).

A cell that is placed stands as its offset says from one of the cells that name it as a child.  In a tree
there is only one of those, and it has only one bel; so the offset holds between any member and its
parent (`place?_offsets`).  The first cell may be lifted to a height of its own, but it stays in its tile
(`tile_eq_of_location?`).  Along links nothing is asked of locations, only that each member is on the bel
that the one before feeds.
-/
import UltraFabric.Proofs.Ranges
import UltraFabric.Proofs.RollCall

namespace UltraFabric

set_option autoImplicit false

namespace Device

variable {device : Device} {bel other : BelId} {location : Loc}

/-- A bel is in a tile of the grid, and its location has the coordinates of the tile. -/
theorem coordinates_of_location? (located : device.location? bel = some location) :
    bel.tile < device.chip.width * device.chip.height ∧
      device.chip.tileXY bel.tile = (location.x, location.y) := by
  obtain ⟨info, found, rfl⟩ := Option.map_eq_some_iff.1 located
  obtain ⟨type, typed, _⟩ := Option.bind_eq_some_iff.1 found
  have inGrid : bel.tile < device.tileCount := (hasTile_of_typed typed).inGrid
  rw [tileCount, device.wellFormed.filled] at inGrid
  exact ⟨inGrid, by rw [Chip.locationOf_eq]⟩

/-- Bels that differ in their height only are in one tile. -/
theorem tile_eq_of_location? {height : Int} (located : device.location? bel = some location)
    (lifted : device.location? other = some { location with z := height }) :
    other.tile = bel.tile := by
  obtain ⟨inGrid, here⟩ := coordinates_of_location? located
  obtain ⟨inGrid', there⟩ := coordinates_of_location? lifted
  exact Chip.tileXY_inj device.wellFormed.small inGrid' inGrid (there.trans here.symm)

end Device

namespace Plan

/-- A member stands as its offset says, seen from a location. -/
def StandsFrom (plan : Plan) (parent : Loc) (entry : Name × BelId) : Prop :=
  ∃ cell, plan.cell? entry.1 = some cell ∧
    plan.device.location? entry.2 = some (cell.locationFrom parent)

/-- A member is a child of another one and stands as its offset says from there. -/
def StandsBy (plan : Plan) (parent entry : Name × BelId) : Prop :=
  plan.IsChild parent.1 entry.1 ∧
    ∃ location, plan.device.location? parent.2 = some location ∧ plan.StandsFrom location entry

section Standing

variable {plan : Plan} (named : plan.layout.netlist.Named)

include named

/-- **Whoever is placed stands by a parent**, one that waits or one that is placed. -/
theorem Unfolds.stands {waiting : List Waiting} {placement : Placement}
    (unfolds : plan.Unfolds waiting placement) :
    ∀ entry ∈ placement, (∃ next ∈ waiting, next.name = entry.1 ∧ plan.StandsFrom next.parent entry) ∨
      ∃ parent ∈ placement, plan.StandsBy parent entry := by
  induction unfolds with
  | done => simp
  | @next next rest cell bel placement found there later ih =>
      have own : cell.name = next.name := named next.name cell found
      have located := Device.location?_of_belAt? there
      intro entry member
      rcases List.mem_cons.1 member with rfl | member
      · refine Or.inl ⟨next, List.mem_cons_self, own.symm, cell, ?_, located⟩
        rw [own]
        exact found
      rcases ih entry member with ⟨other, waits, same, stands⟩ | ⟨parent, placed, stands⟩
      · rcases List.mem_append.1 waits with child | waits
        · -- a child of the cell that has just been placed
          obtain ⟨child, here⟩ := (mem_waitingChildren_iff found).1 child
          refine Or.inr ⟨(cell.name, bel), List.mem_cons_self, ?_, _, located, here ▸ stands⟩
          rwa [own, ← same]
        · exact Or.inl ⟨other, List.mem_cons_of_mem _ waits, same, stands⟩
      · exact Or.inr ⟨parent, List.mem_cons_of_mem _ placed, stands⟩

variable {cluster : Name} {bel : BelId} {root : Cell} {placement : Placement}
  (found : plan.cell? cluster = some root)

include found

/-- Below the first cell everybody stands by a parent in the placement. -/
theorem standsBy_of_unfolds {own : BelId} {location : Loc} {more : Placement}
    (located : plan.device.location? own = some location)
    (unfolds : plan.Unfolds (root.waitingChildren location) more) :
    ∀ entry ∈ more, ∃ parent ∈ (root.name, own) :: more, plan.StandsBy parent entry := by
  intro entry member
  rcases unfolds.stands named entry member with ⟨next, waits, same, stands⟩ | ⟨parent, placed, stands⟩
  · obtain ⟨child, here⟩ := (mem_waitingChildren_iff found).1 waits
    refine ⟨(root.name, own), List.mem_cons_self, ?_, location, located, here ▸ stands⟩
    rwa [named cluster root found, ← same]
  · exact ⟨parent, List.mem_cons_of_mem _ placed, stands⟩

omit named found in
/-- The first cell is on the bel that it was given, or in the same tile at its own height. -/
theorem rootPlace?_cases {own : BelId} {location : Loc}
    (rooted : plan.rootPlace? root bel = some (own, location)) :
    plan.device.location? own = some location ∧ own.tile = bel.tile ∧
      (root.absoluteZ = false → own = bel) ∧ (root.absoluteZ = true → location.z = root.offset.z) := by
  unfold rootPlace? rootFrom? at rooted
  split at rooted
  · cases rooted
  rename_i given located
  split at rooted
  · rename_i lifted
    obtain ⟨other, there, same⟩ := Option.map_eq_some_iff.1 rooted
    cases same
    have located' := Device.location?_of_belAt? there
    exact ⟨located', Device.tile_eq_of_location? located located', by simp [lifted], fun _ => rfl⟩
  · rename_i unlifted
    cases rooted
    exact ⟨located, rfl, fun _ => rfl, fun lifted => absurd lifted unlifted⟩

/-- **Where the members of an accepted placement stand.**  The first cell is on the bel that was asked
for, or at its own height in the same tile.  A family that is placed from parent to child stands as the
offsets say: each other cell from some cell that names it, and in a tree from its parent.  Along links
the children come in their order, each on the bel that the one before feeds. -/
theorem place?_offsets (placed : plan.place? cluster bel = .ok (some placement)) :
    (∃ own location, placement.head? = some (cluster, own) ∧
      plan.device.location? own = some location ∧ own.tile = bel.tile ∧
        (root.absoluteZ = false → own = bel) ∧
        (root.absoluteZ = true → location.z = root.offset.z)) ∧
    (¬ IsLinked root →
      (∀ entry ∈ placement, entry.1 ≠ cluster → ∃ parent ∈ placement, plan.StandsBy parent entry) ∧
        (plan.IsFamilyTree cluster → ∀ parent ∈ placement, ∀ entry ∈ placement,
          plan.IsChild parent.1 entry.1 → plan.StandsBy parent entry)) ∧
    (IsLinked root →
      placement.map Prod.fst = cluster :: root.children ∧
        (placement.map Prod.snd).IsChain fun bel next =>
          plan.fabric.tables.cascade[bel]? = some next) := by
  have top : root.name = cluster := named cluster root found
  obtain ⟨own, place, location, found', rooted, cases⟩ := place?_cases placed
  cases found.symm.trans found'
  obtain ⟨located, rest⟩ := rootPlace?_cases rooted
  refine ⟨⟨place, location, ?_, located, rest⟩, fun unlinked => ?_,
    links_of_place? named found placed⟩
  · rcases cases with ⟨_, chained⟩ | ⟨_, more, rfl, _⟩
    · obtain ⟨more, rfl, _⟩ := placeLinked_cases _ _ _ chained
      rw [List.singleton_append, List.head?_cons, top]
    · rw [List.head?_cons, top]
  · obtain ⟨all, once_iff⟩ := family_of_place? named found placed unlinked
    rcases cases with ⟨linked, _⟩ | ⟨_, more, rfl, unfolds⟩
    · exact absurd linked unlinked
    have below := standsBy_of_unfolds named found located unfolds
    have others : ∀ entry ∈ (root.name, place) :: more, entry.1 ≠ cluster →
        ∃ parent ∈ (root.name, place) :: more, plan.StandsBy parent entry := by
      intro entry member lower
      rcases List.mem_cons.1 member with rfl | member
      · exact absurd top lower
      · exact below entry member
    refine ⟨others, fun tree parent placed entry member child => ?_⟩
    have descends : ∀ entry ∈ (root.name, place) :: more, plan.Descends cluster entry.1 :=
      fun entry member => (all entry.1).1 (List.mem_map_of_mem member)
    have lower : entry.1 ≠ cluster := by
      intro same
      rw [IsChild, same] at child
      exact tree.top parent.1 (descends parent placed) child
    obtain ⟨other, placed', stands⟩ := others entry member lower
    -- the other parent has the name of this one, and nobody has two places
    have same : other.1 = parent.1 := tree.parent other.1 parent.1 entry.1 (descends other placed')
      (descends parent placed) stands.1 child
    rwa [List.inj_on_of_nodup_map (once_iff.2 tree) placed' placed same] at stands

end Standing

end Plan

namespace FamilySample

def chainRoot : Cell :=
  member "first" "DSP" ["second", "third"] 0

theorem chainRoot_found : plan.cell? "first" = some chainRoot := by
  with_unfolding_all rfl

theorem chain_placed : plan.place? "first" ⟨0, 4⟩ =
    .ok (some [("first", ⟨0, 4⟩), ("second", ⟨0, 5⟩), ("third", ⟨0, 6⟩)]) := by
  with_unfolding_all rfl

/-- The leaf of the tree stands one below its parent, which has a height of its own; and the multipliers
are placed along their links. -/
theorem tree_and_chain_stand :
    plan.IsFamilyTree "root" ∧ plan.StandsBy ("right", ⟨0, 3⟩) ("leaf", ⟨0, 2⟩) ∧
      plan.StandsBy ("root", ⟨0, 0⟩) ("right", ⟨0, 3⟩) ∧ Plan.IsLinked chainRoot ∧
      [(⟨0, 4⟩ : BelId), ⟨0, 5⟩, ⟨0, 6⟩].IsChain fun bel next =>
        plan.fabric.tables.cascade[bel]? = some next := by
  have tree : plan.IsFamilyTree "root" :=
    (Plan.family_of_place? stored treeRoot_found tree_placed treeRoot_unlinked).2.1 (by decide)
  obtain ⟨_, family, _⟩ := Plan.place?_offsets stored treeRoot_found tree_placed
  have stands := (family treeRoot_unlinked).2 tree
  have linked : Plan.IsLinked chainRoot := ⟨rfl, List.cons_ne_nil _ _⟩
  obtain ⟨_, _, links⟩ := Plan.place?_offsets stored chainRoot_found chain_placed
  exact ⟨tree,
    stands ("right", ⟨0, 3⟩) (by decide) ("leaf", ⟨0, 2⟩) (by decide) (by decide +kernel),
    stands ("root", ⟨0, 0⟩) (by decide) ("right", ⟨0, 3⟩) (by decide) (by decide +kernel), linked,
    (links linked).2⟩

end FamilySample

end UltraFabric
