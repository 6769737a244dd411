/-
# UltraFabric.Proofs.Indexes — an index turns a look-up round

A device can be asked for the wires at the ends of a pip, for the pins of a bel, for the location of a bel
and for the coordinates of a tile.  Each of its indexes answers one of these questions backwards, and
`Device.Indexed` says that it does so exactly: nothing is missing, nothing else is there, and what is there
occurs as often as it should.

What carries it is that ids are enumerated once each (`Chip.nodup_enumerate`).  So a pip is once among
those that leave a wire, or not at all (`Device.count_pips`), and the pins that a bel has on a wire are
those that its own entry contributes (`Device.count_pinsOn`), however often their names repeat.  That a
location has one bel is what an accepted description promises.

Coordinates are signed numbers of 32 bits, and a grid that needs larger ones appears to have a negative
number of columns or rows.  `Chip.SignedGrid` is the condition on which tiles are found by their
coordinates (`Device.tileAt?_eq_some_iff`); a grid without it has more than 2^31 - 1 tiles.
-/
import Mathlib.Data.List.Nodup
import Mathlib.Data.List.Flatten
import UltraFabric.Proofs.Nodes

namespace UltraFabric

set_option autoImplicit false

namespace Chip

/-! ### Ids are enumerated once -/

section Enumerating

variable {α : Type} {chip : Chip} {resource : Resource} {part : TileType → Array α} {tile : Nat}

/-- What is enumerated of one tile. -/
def enumerateIn (chip : Chip) (resource : Resource) (part : TileType → Array α) (tile : Nat) :
    List (Id resource × α) :=
  match chip.tileType? tile with
  | none => []
  | some type => (part type).toList.zipIdx.map fun (info, index) => (⟨tile, index⟩, info)

theorem nodup_enumerateIn : ((chip.enumerateIn resource part tile).map Prod.fst).Nodup := by
  unfold enumerateIn
  cases chip.tileType? tile with
  | none => exact List.nodup_nil
  | some type =>
      have ids : ((part type).toList.zipIdx.map fun (info, index) =>
          ((⟨tile, index⟩ : Id resource), info)).map Prod.fst =
            ((part type).toList.zipIdx.map Prod.snd).map (Id.mk tile) := by
        simp only [List.map_map, Function.comp_def]
      have inj : Function.Injective (@Id.mk resource tile) := fun index other same =>
        congrArg Id.index same
      rw [ids, List.zipIdx_map_snd]
      exact List.Nodup.map inj List.nodup_range'

theorem tile_of_mem_enumerateIn {id : Id resource}
    (member : id ∈ (chip.enumerateIn resource part tile).map Prod.fst) : id.tile = tile := by
  unfold enumerateIn at member
  cases typed : chip.tileType? tile with
  | none => simp [typed] at member
  | some type =>
      rw [typed] at member
      obtain ⟨entry, listed, rfl⟩ := List.mem_map.1 member
      obtain ⟨numbered, _, rfl⟩ := List.mem_map.1 listed
      rfl

/-- **Every id is enumerated once at most.** -/
theorem nodup_enumerate (chip : Chip) (resource : Resource) (part : TileType → Array α) :
    ((chip.enumerate resource part).map Prod.fst).Nodup := by
  have tilewise : chip.enumerate resource part =
      (List.range chip.tiles.size).flatMap (chip.enumerateIn resource part) := rfl
  rw [tilewise, List.map_flatMap, List.nodup_flatMap]
  refine ⟨fun tile _ => nodup_enumerateIn, ?_⟩
  refine List.nodup_range.pairwise_of_forall_ne fun tile _ other _ different id here there => ?_
  apply different
  rw [← tile_of_mem_enumerateIn here, tile_of_mem_enumerateIn there]

end Enumerating

/-! ### Grids with signed coordinates -/

/-- Columns and rows can be counted by signed numbers of 32 bits. -/
structure SignedGrid (chip : Chip) : Prop where
  columns : chip.width < 2147483648
  rows : chip.height < 2147483648

/-- A number of 32 bits that reads as a positive one reads as itself. -/
theorem signed32_of_pos {n : Nat} (small : n < 4294967296) (positive : 0 < signed32 n) :
    n < 2147483648 := by
  unfold signed32 at positive
  have split := Int.bmod_def (n : Int) 4294967296
  omega

end Chip

namespace Device

variable {device : Device} {wire : WireId} {pip : PipId} {bel : BelId} {pin : Name} {tile : Nat}

/-! ### Pips -/

theorem map_pip_arcs (device : Device) :
    device.arcs.map Arc.pip = device.chip.pipEntries.map Prod.fst := by
  simp only [arcs, Chip.arcs, List.map_map, Function.comp_def]

theorem nodup_pips (device : Device) : (device.arcs.map Arc.pip).Nodup := by
  rw [map_pip_arcs]
  exact Chip.nodup_enumerate _ _ _

/-- A pip is once among those that have a wire at some end of theirs, or not at all. -/
theorem count_pips (tip : Arc → WireId) :
    ((device.arcs.filter (tip · = wire)).map Arc.pip).count pip =
      if (device.arc? pip).map tip = some wire then 1 else 0 := by
  have once : ((device.arcs.filter (tip · = wire)).map Arc.pip).Nodup :=
    device.nodup_pips.sublist (List.filter_sublist.map Arc.pip)
  have listed : pip ∈ (device.arcs.filter (tip · = wire)).map Arc.pip ↔
      (device.arc? pip).map tip = some wire := by
    rw [List.mem_map, Option.map_eq_some_iff]
    constructor
    · rintro ⟨arc, member, rfl⟩
      obtain ⟨there, ends⟩ := List.mem_filter.1 member
      exact ⟨arc, mem_arcs_iff.1 there, of_decide_eq_true ends⟩
    · rintro ⟨arc, found, ends⟩
      have own := pip_of_arc? found
      have there : arc ∈ device.arcs := by
        rw [mem_arcs_iff, own]
        exact found
      exact ⟨arc, List.mem_filter.2 ⟨there, decide_eq_true ends⟩, own⟩
  rw [once.count]
  simp only [listed]

/-! ### Pins -/

/-- How many pins of a bel have a name and touch a wire. -/
def pinCount (device : Device) (bel : BelId) (pin : Name) (wire : WireId) : Nat :=
  ((device.bel? bel).elim [] BelInfo.pins).countP fun own =>
    own.name = pin ∧ device.canonical ⟨bel.tile, own.wire⟩ = wire

/-- The pins of one bel that touch a wire. -/
def ownPinsOn (device : Device) (wire : WireId) (entry : BelId × BelInfo) : List (BelId × Name) :=
  (entry.2.pins.filter fun own => device.canonical ⟨entry.1.tile, own.wire⟩ = wire).map fun own =>
    (entry.1, own.name)

/-- The pins on a wire, bel by bel. -/
theorem pinsOn_eq (device : Device) (wire : WireId) :
    device.pinsOn wire = device.bels.flatMap (device.ownPinsOn wire) := by
  have grouped : device.pinsOn wire =
      (device.chip.pinEntries.filter (·.1 = wire)).map Prod.snd := by
    rw [pinsOn, device.indexes_eq, Indexes.ofChip, getD_groupBy]
  rw [grouped, Chip.pinEntries, nodeHeads_eq_heads, List.filter_flatMap, List.map_flatMap]
  show device.bels.flatMap _ = _
  congr 1
  funext entry
  obtain ⟨bel, info⟩ := entry
  simp only [ownPinsOn, List.filter_map, List.map_map, Function.comp_def, canonical]
  rfl

theorem not_mem_ownPinsOn {entry : BelId × BelInfo} (other : entry.1 ≠ bel) :
    (bel, pin) ∉ device.ownPinsOn wire entry := by
  intro member
  obtain ⟨own, _, same⟩ := List.mem_map.1 member
  exact other (congrArg Prod.fst same)

theorem count_ownPinsOn {info : BelInfo} (found : device.bel? bel = some info) :
    (device.ownPinsOn wire (bel, info)).count (bel, pin) = device.pinCount bel pin wire := by
  simp only [ownPinsOn, pinCount, found, Option.elim_some, List.count, List.countP_map,
    List.countP_filter, Function.comp_def]
  congr 1
  funext own
  by_cases named : own.name = pin <;> simp [named]

/-- **A pin is on a wire as often as its bel has it there.** -/
theorem count_pinsOn (device : Device) (wire : WireId) (bel : BelId) (pin : Name) :
    (device.pinsOn wire).count (bel, pin) = device.pinCount bel pin wire := by
  rw [pinsOn_eq]
  have elsewhere : ∀ entries : List (BelId × BelInfo), (∀ entry ∈ entries, entry.1 ≠ bel) →
      (entries.flatMap (device.ownPinsOn wire)).count (bel, pin) = 0 := by
    intro entries others
    rw [List.count_eq_zero, List.mem_flatMap]
    rintro ⟨entry, there, member⟩
    exact not_mem_ownPinsOn (others entry there) member
  cases found : device.bel? bel with
  | none =>
      have absent : ∀ entry ∈ device.bels, entry.1 ≠ bel := by
        rintro ⟨other, info⟩ there rfl
        have known : device.bel? other = some info := Chip.mem_enumerate_iff.1 there
        rw [found] at known
        cases known
      rw [elsewhere _ absent]
      simp [pinCount, found]
  | some info =>
      -- The entry of the bel stands between others, none of which has its id.
      have there : (bel, info) ∈ device.bels := Chip.mem_enumerate_iff.2 found
      obtain ⟨before, after, split⟩ := List.append_of_mem there
      have once : (device.bels.map Prod.fst).Nodup := Chip.nodup_enumerate _ _ _
      rw [split, List.map_append, List.map_cons, List.nodup_append, List.nodup_cons] at once
      obtain ⟨_, ⟨notAfter, _⟩, apart⟩ := once
      have othersBefore : ∀ entry ∈ before, entry.1 ≠ bel := fun entry member =>
        apart _ (List.mem_map_of_mem member) bel List.mem_cons_self
      have othersAfter : ∀ entry ∈ after, entry.1 ≠ bel := by
        intro entry member same
        exact notAfter (List.mem_map.2 ⟨entry, member, same⟩)
      rw [split, List.flatMap_append, List.flatMap_cons, List.count_append, List.count_append,
        elsewhere before othersBefore, elsewhere after othersAfter, count_ownPinsOn found]
      omega

/-! ### Locations -/

/-- The bels of a device have locations of their own. -/
theorem pairwise_locations (device : Device) : device.bels.Pairwise fun entry other =>
    device.chip.locationOf entry.1 entry.2 ≠ device.chip.locationOf other.1 other.2 := by
  have quiet : device.chip.locationError? = none := by
    have sound := device.sound
    simp only [Chip.Sound, Chip.firstError?, Option.or_eq_none_iff] at sound
    exact sound.2.2.2.2
  exact List.pairwise_map.1 ((Chip.locationErrorFrom?_eq_none_iff _ _).1 quiet).1

/-- **A location leads to the bel that has it.** -/
theorem belAt?_eq_some_iff {location : Loc} :
    device.belAt? location = some bel ↔ device.location? bel = some location := by
  constructor
  · exact location?_of_belAt?
  · intro located
    obtain ⟨info, found, here⟩ := Option.map_eq_some_iff.1 located
    have there : (bel, info) ∈ device.bels := Chip.mem_enumerate_iff.2 found
    have frame : ∀ (bels : Std.ExtTreeMap Loc BelId) (entry : BelId × BelInfo),
        ¬ device.chip.locationOf entry.1 entry.2 = location →
          (bels.insert (device.chip.locationOf entry.1 entry.2) entry.1)[location]? =
            bels[location]? := fun bels entry elsewhere => by
      rw [Std.ExtTreeMap.getElem?_insert, if_neg]
      rw [Std.LawfulEqCmp.compare_eq_iff_eq]
      exact elsewhere
    have apart : device.bels.Pairwise fun entry other =>
        device.chip.locationOf entry.1 entry.2 = location →
          ¬ device.chip.locationOf other.1 other.2 = location :=
      device.pairwise_locations.imp fun different first second =>
        different (first.trans second.symm)
    have entered := Entries.getElem?_foldl_of_touched frame apart there here (fun bels => by
      rw [here, Std.ExtTreeMap.getElem?_insert_self]) ∅
    rw [belAt?, device.indexes_eq]
    exact entered

/-! ### Tiles -/

theorem width_eq (signed : device.chip.SignedGrid) : device.width = device.chip.width :=
  signed32_of_lt signed.columns

theorem height_eq (signed : device.chip.SignedGrid) : device.height = device.chip.height :=
  signed32_of_lt signed.rows

/-- A grid with a tile has columns. -/
theorem columns_pos (inGrid : tile < device.tileCount) : 0 < device.chip.width := by
  rw [tileCount, device.wellFormed.filled] at inGrid
  apply Nat.pos_of_ne_zero
  intro none
  rw [none, Nat.zero_mul] at inGrid
  exact Nat.not_lt_zero _ inGrid

theorem column_lt (inGrid : tile < device.tileCount) :
    tile % device.chip.width < device.chip.width :=
  Nat.mod_lt _ (columns_pos inGrid)

theorem row_lt (inGrid : tile < device.tileCount) :
    tile / device.chip.width < device.chip.height := by
  rw [Nat.div_lt_iff_lt_mul (columns_pos inGrid), Nat.mul_comm, ← device.wellFormed.filled]
  exact inGrid

/-- The coordinates of a tile of the grid. -/
theorem tileXY_eq (signed : device.chip.SignedGrid) (inGrid : tile < device.tileCount) :
    device.tileXY tile =
      .ok ((tile % device.chip.width : Nat), (tile / device.chip.width : Nat)) := by
  have column := Nat.lt_trans (column_lt inGrid) signed.columns
  have row := Nat.lt_trans (row_lt inGrid) signed.rows
  rw [tileXY, if_neg (Nat.ne_of_gt (columns_pos inGrid)), Chip.tileXY, signed32_of_lt column,
    signed32_of_lt row]

/-- A grid that covers a place has signed coordinates. -/
theorem signedGrid_of_tileAt? {x y : Int} (found : device.tileAt? x y = some tile) :
    device.chip.SignedGrid := by
  have shape := device.wellFormed
  unfold tileAt? at found
  split at found
  · cases found
  · rename_i inside
    have columns : 0 < device.width := by omega
    have rows : 0 < device.height := by omega
    have wide : 0 < device.chip.width := by
      apply Nat.pos_of_ne_zero
      intro none
      rw [width, none] at columns
      exact absurd columns (by decide)
    have high : 0 < device.chip.height := by
      apply Nat.pos_of_ne_zero
      intro none
      rw [height, none] at rows
      exact absurd rows (by decide)
    have width_le : device.chip.width ≤ device.chip.width * device.chip.height :=
      Nat.le_mul_of_pos_right _ high
    have height_le : device.chip.height ≤ device.chip.width * device.chip.height :=
      Nat.le_mul_of_pos_left _ wide
    exact ⟨Chip.signed32_of_pos (Nat.lt_of_le_of_lt width_le shape.small) columns,
      Chip.signed32_of_pos (Nat.lt_of_le_of_lt height_le shape.small) rows⟩

/-- **A place leads to the tile that has it as its coordinates**, on grids with signed coordinates. -/
theorem tileAt?_eq_some_iff {x y : Int} : device.tileAt? x y = some tile ↔
    device.chip.SignedGrid ∧ tile < device.tileCount ∧ device.tileXY tile = .ok (x, y) := by
  constructor
  · intro found
    have signed := signedGrid_of_tileAt? found
    have inGrid := lt_of_tileAt? found
    refine ⟨signed, inGrid, ?_⟩
    unfold tileAt? at found
    split at found
    · cases found
    · rename_i inside
      rw [width_eq signed, height_eq signed] at inside
      have column : x.toNat < device.chip.width := by omega
      have wide : 0 < device.chip.width := by omega
      cases found
      have there : (y.toNat * device.chip.width + x.toNat) % device.chip.width = x.toNat := by
        rw [Nat.mul_add_mod_self_right, Nat.mod_eq_of_lt column]
      have above : (y.toNat * device.chip.width + x.toNat) / device.chip.width = y.toNat := by
        rw [Nat.mul_comm, Nat.mul_add_div wide, Nat.div_eq_of_lt column, Nat.add_zero]
      rw [tileXY_eq signed inGrid, there, above, Int.toNat_of_nonneg (by omega),
        Int.toNat_of_nonneg (by omega)]
  · rintro ⟨signed, inGrid, placed⟩
    rw [tileXY_eq signed inGrid] at placed
    have column := column_lt inGrid
    have row := row_lt inGrid
    have split := Nat.div_add_mod tile device.chip.width
    generalize tile % device.chip.width = column' at *
    generalize tile / device.chip.width = row' at *
    cases placed
    rw [tileAt?, width_eq signed, height_eq signed, if_neg (by omega)]
    congr 1
    show row' * device.chip.width + column' = tile
    rw [Nat.mul_comm]
    exact split

/-! ### The whole -/

/-- The indexes of a device are its parts, asked the other way round. -/
structure Indexed (device : Device) : Prop where
  leaving : ∀ wire pip, ((device.leaving wire).map Arc.pip).count pip =
    if (device.arc? pip).map Arc.source = some wire then 1 else 0
  entering : ∀ wire pip, ((device.entering wire).map Arc.pip).count pip =
    if (device.arc? pip).map Arc.target = some wire then 1 else 0
  pins : ∀ wire bel pin, (device.pinsOn wire).count (bel, pin) = device.pinCount bel pin wire
  bels : ∀ location bel, device.belAt? location = some bel ↔ device.location? bel = some location
  tiles : ∀ x y tile, device.tileAt? x y = some tile ↔
    device.chip.SignedGrid ∧ tile < device.tileCount ∧ device.tileXY tile = .ok (x, y)

/-- **The indexes of a device are exact inverses of its look-ups.**  Tiles are found by their coordinates
when these are numbers of 32 bits with a sign (`Chip.SignedGrid`); a grid with tiles for which they are not
has 2 ^ 31 tiles or more. -/
theorem indexed (device : Device) : device.Indexed where
  leaving wire pip := by
    rw [leaving_eq_filter]
    exact count_pips Arc.source
  entering wire pip := by
    rw [entering_eq_filter]
    exact count_pips Arc.target
  pins := device.count_pinsOn
  bels _ _ := belAt?_eq_some_iff
  tiles _ _ _ := tileAt?_eq_some_iff

end Device

end UltraFabric
