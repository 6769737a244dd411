/-
# UltraFabric.Proofs.RollCall — who is in an accepted placement

An accepted placement gives no bel twice, and each of its cells may stand on the bel that it gets.  It
may list a cell twice all the same, because only bels are compared:

* a family that is placed from parent to child is there as a whole, and everybody is listed as often as
  he is named.  So nobody is listed twice exactly when the family is a tree;
* along links only the children of the first cell are placed.  They are listed as they are named, and
  their own children are left out unless they are among them.

`place?_covers_iff` says both.  `FamilySample.listed_twice` is a cell with two parents that gets two
bels, and two families of multipliers, one with a child that is named twice and one with a grandchild
that is left out.
-/
import UltraFabric.Proofs.Clusters
import UltraFabric.Proofs.Families

namespace UltraFabric

set_option autoImplicit false

namespace Plan

/-- A placement has everybody of a family and nobody else, each once. -/
structure Covers (plan : Plan) (cluster : Name) (placement : Placement) : Prop where
  all : ∀ name, name ∈ placement.map Prod.fst ↔ plan.Descends cluster name
  once : (placement.map Prod.fst).Nodup

section Covering

variable {plan : Plan} {cluster : Name} {root : Cell}

/-- The first cell and its children are the family exactly when they have no other children. -/
theorem descends_iff_of_linked (found : plan.cell? cluster = some root) :
    (∀ name, name ∈ cluster :: root.children ↔ plan.Descends cluster name) ↔
      ∀ child ∈ root.children, plan.childrenOf child ⊆ cluster :: root.children := by
  have children := childrenOf_of_found found
  constructor
  · intro family child listed grandchild below
    refine (family grandchild).2 (((family child).1 (List.mem_cons_of_mem _ listed)).tail below)
  · intro closed name
    constructor
    · intro listed
      rcases List.mem_cons.1 listed with rfl | listed
      · exact .refl
      · exact .single (by rwa [IsChild, children])
    · intro descends
      induction descends with
      | refl => exact List.mem_cons_self
      | @tail parent name _ child ih =>
          rw [IsChild] at child
          rcases List.mem_cons.1 ih with rfl | listed
          · rw [children] at child
            exact List.mem_cons_of_mem _ child
          · exact closed parent listed child

/-- **Who is in an accepted placement.**  No bel is given twice, and each cell may stand on its bel.  A
family that is placed from parent to child is in it as a whole, and each cell has one place exactly when
the family is a tree.  Along links the first cell and its children are listed as they are named; this is
the family, each cell once, exactly when these names are different and the children have no others. -/
theorem place?_covers_iff (named : plan.layout.netlist.Named) {bel : BelId} {placement : Placement}
    (found : plan.cell? cluster = some root)
    (placed : plan.place? cluster bel = .ok (some placement)) :
    (placement.map Prod.snd).Nodup ∧
    (∀ entry ∈ placement, plan.device.isBel entry.2 = true ∧
      ∃ cell, plan.cell? entry.1 = some cell ∧ plan.fits cell.type entry.2 = true) ∧
    (¬ IsLinked root →
      (∀ name, name ∈ placement.map Prod.fst ↔ plan.Descends cluster name) ∧
        (plan.Covers cluster placement ↔ plan.IsFamilyTree cluster)) ∧
    (IsLinked root →
      placement.map Prod.fst = cluster :: root.children ∧
        (plan.Covers cluster placement ↔ (cluster :: root.children).Nodup ∧
          ∀ child ∈ root.children, plan.childrenOf child ⊆ cluster :: root.children)) := by
  have admitted := admitted_of_place? placed
  refine ⟨admitted.apart, fun entry member => ?_, fun unlinked => ?_, fun linked => ?_⟩
  · obtain ⟨cell, known, fits⟩ := admitted.fits entry member
    have suits := (memberFits_eq_ok_true_iff.1 fits).1
    exact ⟨isBel_of_fits suits, cell, known, suits⟩
  · obtain ⟨all, once_iff⟩ := family_of_place? named found placed unlinked
    refine ⟨all, ?_⟩
    rw [← once_iff]
    exact ⟨Covers.once, fun once => ⟨all, once⟩⟩
  · obtain ⟨listed, _⟩ := links_of_place? named found placed linked
    refine ⟨listed, ?_⟩
    rw [← descends_iff_of_linked found, ← listed]
    exact ⟨fun covers => ⟨covers.once, covers.all⟩, fun ⟨once, all⟩ => ⟨all, once⟩⟩

end Covering

end Plan

/-! ### A sample: families of lookup tables and of multipliers -/

namespace FamilySample

/-- Four lookup tables, and three multipliers of which each feeds the next. -/
def tileType : TileType :=
  ⟨"T",
    #[⟨"L0", "XLUT", 0, 0, [], none, none⟩, ⟨"L1", "XLUT", 1, 0, [], none, none⟩,
      ⟨"L2", "XLUT", 2, 0, [], none, none⟩, ⟨"L3", "XLUT", 3, 0, [], none, none⟩,
      ⟨"D0", "DSP", 4, 0, [⟨"CAO1", 0, .output⟩], none, none⟩,
      ⟨"D1", "DSP", 5, 0, [⟨"CAI1", 0, .input⟩, ⟨"CAO1", 1, .output⟩], none, none⟩,
      ⟨"D2", "DSP", 6, 0, [⟨"CAI1", 1, .input⟩], none, none⟩],
    #[⟨"w0", "", 0⟩, ⟨"w1", "", 0⟩], #[], #[]⟩

def chip : Chip :=
  ⟨"families", 1, 1, #[tileType], #[⟨0, some ⟨"T0", some 0⟩⟩], [], []⟩

def device : Device :=
  ⟨chip, by decide, Indexes.ofChip chip, rfl⟩

/-- A cell with children, whose place is some way above its parent. -/
def member (name type : Name) (children : List Name) (above : Int) : Cell :=
  { Cell.bare name type with
    children
    offset := ⟨0, 0, above⟩ }

/-- A tree of four, one of them at a height of its own. -/
def tree : List Cell :=
  [member "root" "XLUT" ["left", "right"] 0, member "left" "XLUT" [] 1,
    { member "right" "XLUT" ["leaf"] 3 with absoluteZ := true }, member "leaf" "XLUT" [] (-1)]

/-- A cell with two parents. -/
def shared : List Cell :=
  [member "uncle" "XLUT" ["nephew", "father"] 0, member "nephew" "XLUT" [] 1,
    member "father" "XLUT" ["nephew"] 2]

/-- Multipliers with two children, with one child that is named twice, and with a grandchild. -/
def multipliers : List Cell :=
  [member "first" "DSP" ["second", "third"] 0, member "second" "DSP" [] 0,
    member "third" "DSP" [] 0, member "double" "DSP" ["third", "third"] 0,
    member "elder" "DSP" ["younger"] 0, member "younger" "DSP" ["third"] 0]

/-- Cells that are each other's children, and one above them. -/
def round : List Cell :=
  [member "start" "XLUT" ["hare"] 0, member "hare" "XLUT" ["tortoise"] 1,
    member "tortoise" "XLUT" ["hare"] 1]

def netlist : Netlist :=
  (tree ++ shared ++ multipliers ++ round).foldl Netlist.setCell .empty

theorem named : netlist.Named := by
  refine List.foldlRecOn (motive := Netlist.Named) _ _ Netlist.named_empty ?_
  exact fun netlist named cell _ => named.setCell cell

def layout : Layout :=
  match Layout.ofNetlist device netlist with
  | .ok layout => layout
  | .error _ => ⟨device, netlist, ∅, ∅, ∅⟩

theorem placed : Layout.ofNetlist device netlist = .ok layout := by
  rfl

def plan : Plan :=
  (Plan.mk .fresh Sample.fabric layout).setUp.1

theorem built : ClockBuffer.byLobe device (TileNames.ofChip chip) = .ok ∅ := by
  with_unfolding_all rfl

theorem started : Plan.Started device netlist plan :=
  .of_built named placed built .fresh Sample.fabric

theorem stored : plan.layout.netlist.Named :=
  started.consistent.agree.named

/-- The leaf is placed from the height that its parent has for itself. -/
def treePlacement : Placement :=
  [("root", ⟨0, 0⟩), ("left", ⟨0, 1⟩), ("right", ⟨0, 3⟩), ("leaf", ⟨0, 2⟩)]

def treeRoot : Cell :=
  member "root" "XLUT" ["left", "right"] 0

theorem treeRoot_found : plan.cell? "root" = some treeRoot := by
  with_unfolding_all rfl

theorem tree_placed : plan.place? "root" ⟨0, 0⟩ = .ok (some treePlacement) := by
  with_unfolding_all rfl

theorem treeRoot_unlinked : ¬ Plan.IsLinked treeRoot := by
  rintro ⟨multiplier, _⟩
  revert multiplier
  decide

/-- The tree is placed, everybody once. -/
theorem tree_covered :
    plan.layout.netlist.Named ∧ plan.cell? "root" = some treeRoot ∧
      plan.place? "root" ⟨0, 0⟩ = .ok (some treePlacement) ∧ ¬ Plan.IsLinked treeRoot ∧
      (plan.Covers "root" treePlacement ↔ plan.IsFamilyTree "root") ∧
      plan.Covers "root" treePlacement := by
  obtain ⟨_, _, family, _⟩ := Plan.place?_covers_iff stored treeRoot_found tree_placed
  obtain ⟨all, covers_iff⟩ := family treeRoot_unlinked
  exact ⟨stored, treeRoot_found, tree_placed, treeRoot_unlinked, covers_iff, all, by decide⟩

/-- A cell with two parents gets two bels, and so does a child of a multiplier that is named twice; the
grandchild of a multiplier gets none. -/
theorem listed_twice :
    plan.place? "uncle" ⟨0, 0⟩ = .ok (some [("uncle", ⟨0, 0⟩), ("nephew", ⟨0, 1⟩),
        ("father", ⟨0, 2⟩), ("nephew", ⟨0, 3⟩)]) ∧
      ¬ plan.Covers "uncle" [("uncle", ⟨0, 0⟩), ("nephew", ⟨0, 1⟩), ("father", ⟨0, 2⟩),
        ("nephew", ⟨0, 3⟩)] ∧
      plan.place? "double" ⟨0, 4⟩ =
        .ok (some [("double", ⟨0, 4⟩), ("third", ⟨0, 5⟩), ("third", ⟨0, 6⟩)]) ∧
      ¬ plan.Covers "double" [("double", ⟨0, 4⟩), ("third", ⟨0, 5⟩), ("third", ⟨0, 6⟩)] ∧
      plan.place? "elder" ⟨0, 4⟩ = .ok (some [("elder", ⟨0, 4⟩), ("younger", ⟨0, 5⟩)]) ∧
      ¬ plan.Covers "elder" [("elder", ⟨0, 4⟩), ("younger", ⟨0, 5⟩)] := by
  refine ⟨by with_unfolding_all rfl, fun covers => ?_, by with_unfolding_all rfl,
    fun covers => ?_, by with_unfolding_all rfl, fun covers => ?_⟩
  · exact absurd covers.once (by decide)
  · exact absurd covers.once (by decide)
  · have child : plan.IsChild "elder" "younger" := by decide +kernel
    have grandchild : plan.IsChild "younger" "third" := by decide +kernel
    exact absurd ((covers.all "third").2 (.tail (.single child) grandchild)) (by decide)

end FamilySample

end UltraFabric
