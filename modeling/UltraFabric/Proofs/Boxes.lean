/-
# UltraFabric.Proofs.Boxes — what a routing box covers

The least box around two nodes is widened to full squares, then by a margin, and cut at the edges of the
grid.  A box is known by what it lies in (`TileBox.Within`), and the least box around some tiles lies in
another box exactly if that one covers the tiles (`Plan.boxAround_within_iff`).  So neither the order of
the tiles matters nor which of them the box was begun with, and to ask whether a routing box covers both
nodes is to ask whether it covers the least box.

Full squares reach up to three tiles beyond that box on each side, and a margin is any number.  One below
zero takes tiles away: as long as the squares spare them (`TileBox.Spares`) nothing is lost, and
`routingBox_covers_iff` says that this is exactly when the nodes are covered.  In particular no margin
from zero on loses an end of a route; `MarginSample.ends_lost` is about one below.
-/
import UltraFabric.Estimate
import UltraFabric.Proofs.Indexes

namespace UltraFabric

set_option autoImplicit false

namespace TileBox

variable {box outer : TileBox} {margin x y : Int}

/-! ### Boxes within boxes -/

/-- No edge of a box is beyond the same edge of another one. -/
structure Within (inner outer : TileBox) : Prop where
  x0 : outer.x0 ≤ inner.x0
  y0 : outer.y0 ≤ inner.y0
  x1 : inner.x1 ≤ outer.x1
  y1 : inner.y1 ≤ outer.y1

theorem Within.refl (box : TileBox) : box.Within box :=
  ⟨Int.le_refl _, Int.le_refl _, Int.le_refl _, Int.le_refl _⟩

theorem Within.antisymm (inside : box.Within outer) (around : outer.Within box) : box = outer := by
  obtain ⟨x0, y0, x1, y1⟩ := box
  obtain ⟨left, low, right, high⟩ := inside
  obtain ⟨left', low', right', high'⟩ := around
  congr 1
  · exact Int.le_antisymm left' left
  · exact Int.le_antisymm low' low
  · exact Int.le_antisymm right right'
  · exact Int.le_antisymm high high'

theorem contains_iff :
    box.contains x y = true ↔ box.x0 ≤ x ∧ x ≤ box.x1 ∧ box.y0 ≤ y ∧ y ≤ box.y1 := by
  simp [contains, and_assoc]

theorem around_within_iff : (around x y).Within outer ↔ outer.contains x y = true := by
  rw [contains_iff]
  constructor
  · rintro ⟨left, low, right, high⟩
    exact ⟨left, right, low, high⟩
  · rintro ⟨left, right, low, high⟩
    exact ⟨left, low, right, high⟩

/-- To cover one more tile is to cover the box and the tile. -/
theorem extend_within_iff :
    (box.extend x y).Within outer ↔ box.Within outer ∧ outer.contains x y = true := by
  rw [contains_iff]
  constructor
  · rintro ⟨left, low, right, high⟩
    simp only [extend, Int.le_min, Int.max_le] at left low right high
    exact ⟨⟨left.1, low.1, right.1, high.1⟩, left.2, right.2, low.2, high.2⟩
  · rintro ⟨inside, left, right, low, high⟩
    exact ⟨Int.le_min.2 ⟨inside.x0, left⟩, Int.le_min.2 ⟨inside.y0, low⟩,
      Int.max_le.2 ⟨inside.x1, right⟩, Int.max_le.2 ⟨inside.y1, high⟩⟩

/-! ### Margins -/

/-- Widened to full squares and then by the margin, a box keeps all its edges. -/
structure Spares (margin : Int) (box : TileBox) : Prop where
  x0 : 0 ≤ box.x0 % 4 + margin
  y0 : 0 ≤ box.y0 % 4 + margin
  x1 : box.x1 % 4 ≤ 3 + margin
  y1 : box.y1 % 4 ≤ 3 + margin

theorem spares_of_nonneg (wide : 0 ≤ margin) (box : TileBox) : Spares margin box := by
  constructor <;> omega

end TileBox

namespace Device

variable {device : Device} {wire : WireId} {tile : Nat} {box : TileBox}

/-- All tiles of the grid. -/
def gridBox (device : Device) : TileBox :=
  ⟨0, 0, device.width - 1, device.height - 1⟩

/-- The tile of a wire is in a box. -/
def Covers (device : Device) (box : TileBox) (wire : WireId) : Prop :=
  ∃ x y, device.tileXY wire.tile = .ok (x, y) ∧ box.contains x y = true

theorem covers_iff (columns : device.chip.width ≠ 0) : device.Covers box wire ↔
    box.contains (device.chip.tileXY wire.tile).1 (device.chip.tileXY wire.tile).2 = true := by
  have placed : device.tileXY wire.tile = .ok (device.chip.tileXY wire.tile) := by
    rw [tileXY, if_neg columns]
  unfold Covers
  rw [placed]
  generalize device.chip.tileXY wire.tile = place
  constructor
  · rintro ⟨x, y, found, inside⟩
    cases found
    exact inside
  · exact fun inside => ⟨place.1, place.2, rfl, inside⟩

/-- The wires of a device are in tiles of its grid. -/
theorem gridBox_covers (signed : device.chip.SignedGrid) (known : device.InRange (.wire wire)) :
    device.Covers device.gridBox wire := by
  have inGrid := known.1.inGrid
  have column := column_lt inGrid
  have row := row_lt inGrid
  refine ⟨_, _, tileXY_eq signed inGrid, ?_⟩
  rw [TileBox.contains_iff]
  simp only [gridBox, width_eq signed, height_eq signed]
  generalize wire.tile % device.chip.width = x at *
  generalize wire.tile / device.chip.width = y at *
  omega

end Device

namespace Plan

variable {device : Device} {source target first : WireId} {wires : List WireId}
  {box outer : TileBox} {margin : Int}

/-! ### The least box -/

/-- A box with the tile of one more wire. -/
def cover (device : Device) (box : TileBox) (wire : WireId) : TileBox :=
  box.extend (device.chip.tileXY wire.tile).1 (device.chip.tileXY wire.tile).2

theorem boxAround_eq (device : Device) (first : WireId) (wires : List WireId) :
    boxAround device first wires = wires.foldl (cover device)
      (TileBox.around (device.chip.tileXY first.tile).1 (device.chip.tileXY first.tile).2) := by
  unfold boxAround cover
  generalize device.chip.tileXY = place
  rfl

/-- **The least box around some wires** lies in those boxes that cover their tiles. -/
theorem boxAround_within_iff (columns : device.chip.width ≠ 0) :
    (boxAround device first wires).Within outer ↔
      ∀ wire ∈ first :: wires, device.Covers outer wire := by
  -- What is folded into a box is asked for in addition to the box.
  have folded : ∀ (rest : List WireId) (box : TileBox), (rest.foldl (cover device) box).Within outer ↔
      box.Within outer ∧ ∀ wire ∈ rest, device.Covers outer wire := by
    intro rest
    induction rest with
    | nil => simp
    | cons wire rest ih =>
        intro box
        rw [List.foldl_cons, ih, cover, TileBox.extend_within_iff, ← Device.covers_iff columns,
          List.forall_mem_cons, and_assoc]
  rw [List.forall_mem_cons, Device.covers_iff columns, ← TileBox.around_within_iff, boxAround_eq]
  exact folded wires _

/-- The least box depends on which wires there are, not on their order. -/
theorem boxAround_congr (columns : device.chip.width ≠ 0) {other : WireId} {others : List WireId}
    (same : ∀ wire, wire ∈ first :: wires ↔ wire ∈ other :: others) :
    boxAround device first wires = boxAround device other others := by
  apply TileBox.Within.antisymm
  · rw [boxAround_within_iff columns]
    intro wire there
    exact (boxAround_within_iff columns).1 (.refl _) wire ((same wire).1 there)
  · rw [boxAround_within_iff columns]
    intro wire there
    exact (boxAround_within_iff columns).1 (.refl _) wire ((same wire).2 there)

/-- The wires of the nodes of two wires. -/
def endWires (device : Device) (source target : WireId) : List WireId :=
  device.members (device.canonical source) ++ device.members (device.canonical target)

/-- The least box around the nodes of two wires. -/
def extent (device : Device) (source target : WireId) : TileBox :=
  boxAround device (device.canonical source) (endWires device source target)

/-- The name of a node is that of one of its members. -/
theorem mem_endWires_iff {wire : WireId} :
    wire ∈ device.canonical source :: endWires device source target ↔
      wire ∈ endWires device source target := by
  have own : device.canonical source ∈ endWires device source target := by
    have named := device.mem_members_canonical (device.canonical source)
    rw [device.canonical_canonical] at named
    exact List.mem_append_left _ named
  rw [List.mem_cons, or_iff_right_of_imp]
  rintro rfl
  exact own

theorem extent_within_iff (columns : device.chip.width ≠ 0) :
    (extent device source target).Within outer ↔
      ∀ wire ∈ endWires device source target, device.Covers outer wire := by
  rw [extent, boxAround_within_iff columns]
  simp only [mem_endWires_iff]

theorem extent_comm (columns : device.chip.width ≠ 0) (source target : WireId) :
    extent device source target = extent device target source := by
  apply boxAround_congr columns
  intro wire
  rw [mem_endWires_iff, mem_endWires_iff, endWires, endWires, List.mem_append, List.mem_append,
    or_comm]

/-- The nodes of wires of the device are on the grid. -/
theorem extent_within_grid (signed : device.chip.SignedGrid)
    (sourceKnown : device.InRange (.wire source)) (targetKnown : device.InRange (.wire target)) :
    (extent device source target).Within device.gridBox := by
  have columns := Nat.ne_of_gt (Device.columns_pos sourceKnown.1.inGrid)
  rw [extent_within_iff columns]
  intro wire there
  rcases List.mem_append.1 there with there | there
  · exact Device.gridBox_covers signed
      (Device.inRange_of_mem_members (Device.inRange_canonical sourceKnown) there)
  · exact Device.gridBox_covers signed
      (Device.inRange_of_mem_members (Device.inRange_canonical targetKnown) there)

/-! ### Widening -/

/-- No widened box reaches beyond the grid. -/
theorem widen_within_grid (device : Device) (margin : Int) (box : TileBox) :
    (widen device margin box).Within device.gridBox :=
  ⟨Int.le_max_right _ _, Int.le_max_right _ _, Int.min_le_right _ _, Int.min_le_right _ _⟩

/-- **A box on the grid is kept when it is widened** exactly if the margin spares its edges. -/
theorem within_widen_iff (onGrid : box.Within device.gridBox) :
    box.Within (widen device margin box) ↔ TileBox.Spares margin box := by
  obtain ⟨left, low, right, high⟩ := onGrid
  simp only [Device.gridBox] at left low right high
  unfold widen floorToFour ceilToFour floorToFour
  generalize device.width = columns at *
  generalize device.height = rows at *
  constructor
  · rintro ⟨x0, y0, x1, y1⟩
    dsimp only at x0 y0 x1 y1
    constructor <;> omega
  · rintro ⟨x0, y0, x1, y1⟩
    constructor <;> dsimp only <;> omega

/-! ### Routing boxes -/

theorem routingBox_eq (plan : Plan) (columns : plan.device.chip.width ≠ 0) (source target : WireId) :
    plan.routingBox source target =
      .ok (widen plan.device plan.fabric.options.boxMargin (extent plan.device source target)) := by
  rw [routingBox, if_neg columns]
  rfl

/-- **A routing box covers both nodes exactly if the margin spares the least box around them**, and a
margin that is not negative does.  There is a box for any two wires of the device, the same in both
directions, and it never reaches beyond the grid. -/
theorem routingBox_covers_iff (plan : Plan) (signed : plan.device.chip.SignedGrid)
    (sourceKnown : plan.device.InRange (.wire source))
    (targetKnown : plan.device.InRange (.wire target)) :
    ∃ box, plan.routingBox source target = .ok box ∧ plan.routingBox target source = .ok box ∧
      box.Within plan.device.gridBox ∧
      ((∀ wire ∈ endWires plan.device source target, plan.device.Covers box wire) ↔
        TileBox.Spares plan.fabric.options.boxMargin (extent plan.device source target)) ∧
      (0 ≤ plan.fabric.options.boxMargin →
        TileBox.Spares plan.fabric.options.boxMargin (extent plan.device source target)) := by
  have columns := Nat.ne_of_gt (Device.columns_pos sourceKnown.1.inGrid)
  have onGrid := extent_within_grid signed sourceKnown targetKnown
  refine ⟨_, routingBox_eq plan columns source target, ?_, widen_within_grid _ _ _, ?_,
    fun wide => TileBox.spares_of_nonneg wide _⟩
  · rw [routingBox_eq plan columns, extent_comm columns]
  · rw [← extent_within_iff columns]
    exact within_widen_iff onGrid

end Plan

/-! ### A sample: margins on a grid of two tiles -/

namespace MarginSample

/-- The node of the sample device lies in both tiles. -/
def plan (options : Options) : Plan :=
  ⟨.fresh, .ofOptions options .empty, ⟨RangeSample.device, .empty, ∅, ∅, ∅⟩⟩

theorem signed : RangeSample.device.chip.SignedGrid := by
  constructor <;> decide

theorem ring_known : RangeSample.device.InRange (.wire ⟨0, 1⟩) :=
  Device.inRange_wire (show RangeSample.device.wire? ⟨0, 1⟩ = some ⟨"ring", "", 1⟩ by decide +kernel)

theorem pin_known : RangeSample.device.InRange (.wire ⟨1, 0⟩) :=
  Device.inRange_wire (show RangeSample.device.wire? ⟨1, 0⟩ = some ⟨"W.ZO", "", 0⟩ by decide +kernel)

/-- With the usual margin nothing is lost. -/
theorem ends_covered : ∃ box, (plan .standard).routingBox ⟨0, 1⟩ ⟨1, 0⟩ = .ok box ∧
    (plan .standard).routingBox ⟨1, 0⟩ ⟨0, 1⟩ = .ok box ∧
    ∀ wire ∈ Plan.endWires RangeSample.device ⟨0, 1⟩ ⟨1, 0⟩, RangeSample.device.Covers box wire := by
  obtain ⟨box, there, back, _, covered, spared⟩ :=
    Plan.routingBox_covers_iff (plan .standard) signed ring_known pin_known
  exact ⟨box, there, back, covered.2 (spared (by decide))⟩

/-- A margin of -1 is a setting like others, but the box from the node to itself misses the tile that
the node begins in. -/
theorem ends_lost : ∃ arguments options, Arguments.ofSettings ["bbox_margin=-1"] = .ok arguments ∧
    Options.ofArguments arguments = .ok options ∧
    (plan options).routingBox ⟨0, 1⟩ ⟨0, 1⟩ = .ok ⟨1, 1, 1, 0⟩ ∧
    ¬ RangeSample.device.Covers ⟨1, 1, 1, 0⟩ ⟨0, 1⟩ := by
  refine ⟨⟨(∅ : Std.ExtTreeMap String String).insert "bbox_margin" "-1"⟩,
    { Options.standard with boxMargin := -1 }, ?_, ?_, ?_, ?_⟩
  · decide +kernel
  · decide +kernel
  · decide +kernel
  · rw [Device.covers_iff (by decide)]
    decide +kernel

end MarginSample

end UltraFabric
