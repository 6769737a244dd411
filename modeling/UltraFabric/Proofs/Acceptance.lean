/-
# UltraFabric.Proofs.Acceptance — exactly the well-formed descriptions become devices

`Chip.WellFormed` says what a description owes, resource by resource and without an order: a grid of
the right size, types that exist, indices that stay inside their tile type, nodes made of wires that
exist and that no other node has, and bels that differ in height when they share a tile.
`Device.ofChip` goes through a description once, check after check; `Chip.sound_iff` says that the
checks pass exactly on the well-formed ones, one lemma for each check.

The last check compares locations and not heights.  The two are the same because two tiles of an
accepted grid never share their coordinates (`Chip.tileXY_inj`), although these are read as signed
numbers.
-/
import Mathlib.Data.List.Nodup
import Mathlib.Data.List.Flatten
import UltraFabric.Proofs.Inventory

namespace UltraFabric

set_option autoImplicit false

/-- Every index in a tile type leads somewhere in it. -/
structure TileType.Closed (type : TileType) : Prop where
  ends : ∀ pip ∈ type.pips, pip.source < type.wires.size ∧ pip.target < type.wires.size
  crossed : ∀ pip ∈ type.pips, ∀ detail, pip.detail = some detail →
    ∀ bel, detail.bel = some bel → bel < type.bels.size
  pins : ∀ bel ∈ type.bels, ∀ pin ∈ bel.pins, pin.wire < type.wires.size
  groups : ∀ group ∈ type.muxGroups, ∀ bel ∈ group.bels, bel < type.bels.size

/-- What the description of a chip owes. -/
structure Chip.WellFormed (chip : Chip) : Prop where
  small : chip.width * chip.height < 4294967296
  filled : chip.tiles.size = chip.width * chip.height
  typed : ∀ tile ∈ chip.tiles, tile.type < chip.types.size
  closed : ∀ type ∈ chip.types, type.Closed
  members : ∀ node ∈ chip.nodes, ∀ wire ∈ node, (chip.wireInfo? wire).isSome = true
  once : ∀ node ∈ chip.nodes, node.Nodup
  apart : chip.nodes.Pairwise List.Disjoint
  heights : ∀ tile ∈ chip.tiles, ∀ type, chip.types[tile.type]? = some type →
    (type.bels.toList.map BelInfo.z).Nodup

/-! ### Inside a tile type -/

/-- A search with indices finds nothing when no item is found under any index. -/
theorem findSome?_zipIdx_eq_none_iff {α β : Type} {items : Array α} {found? : α × Nat → Option β}
    {Fine : α → Prop} (fine : ∀ item index, found? (item, index) = none ↔ Fine item) :
    items.toList.zipIdx.findSome? found? = none ↔ ∀ item ∈ items, Fine item := by
  rw [List.findSome?_eq_none_iff]
  constructor
  · intro quiet item member
    obtain ⟨index, there⟩ := List.mem_iff_getElem?.1 (Array.mem_toList_iff.2 member)
    exact (fine item index).1 (quiet _ (List.mem_zipIdx_iff_getElem?.2 there))
  · rintro all ⟨item, index⟩ member
    have there := List.mem_of_getElem? (List.mem_zipIdx_iff_getElem?.1 member)
    exact (fine item index).2 (all item (Array.mem_toList_iff.1 there))

namespace TileType

variable {type : TileType}

theorem pipError?_eq_none_iff {pip : PipInfo} {index : Nat} :
    type.pipError? pip index = none ↔
      (pip.source < type.wires.size ∧ pip.target < type.wires.size) ∧
        ∀ detail, pip.detail = some detail → ∀ bel, detail.bel = some bel → bel < type.bels.size := by
  have ends : ¬ (type.wires.size ≤ pip.source ∨ type.wires.size ≤ pip.target) ↔
      pip.source < type.wires.size ∧ pip.target < type.wires.size := by
    omega
  by_cases missing : type.wires.size ≤ pip.source ∨ type.wires.size ≤ pip.target
  · simp only [pipError?, if_pos missing, reduceCtorEq, false_iff]
    exact fun fine => ends.2 fine.1 missing
  · simp only [pipError?, if_neg missing, ends.1 missing, and_self, true_and]
    cases detailed : pip.detail with
    | none => simp
    | some detail => cases crossed : detail.bel <;> simp [crossed]

theorem pinError?_eq_none_iff {bel : BelInfo} :
    type.pinError? bel = none ↔ ∀ pin ∈ bel.pins, pin.wire < type.wires.size := by
  simp [pinError?]

theorem groupError?_eq_none_iff {group : MuxGroup} {index : Nat} :
    type.groupError? group index = none ↔ ∀ bel ∈ group.bels, bel < type.bels.size := by
  simp [groupError?]

theorem error?_eq_none_iff : type.error? = none ↔ type.Closed := by
  rw [error?, Option.or_eq_none_iff, Option.or_eq_none_iff,
    findSome?_zipIdx_eq_none_iff fun _ _ => pipError?_eq_none_iff,
    findSome?_zipIdx_eq_none_iff fun _ _ => groupError?_eq_none_iff]
  simp only [List.findSome?_eq_none_iff, Array.mem_toList_iff, pinError?_eq_none_iff]
  constructor
  · rintro ⟨pips, pins, groups⟩
    exact ⟨fun pip member => (pips pip member).1, fun pip member => (pips pip member).2, pins, groups⟩
  · rintro ⟨ends, crossed, pins, groups⟩
    exact ⟨fun pip member => ⟨ends pip member, crossed pip member⟩, pins, groups⟩

end TileType

/-! ### The grid and its nodes -/

namespace Chip

variable {chip : Chip}

theorem gridError?_eq_none_iff : chip.gridError? = none ↔
    chip.width * chip.height < 4294967296 ∧ chip.tiles.size = chip.width * chip.height := by
  unfold gridError?
  split
  · simp only [reduceCtorEq, false_iff]
    omega
  · split
    · simp only [reduceCtorEq, false_iff]
      omega
    · simp only [true_iff]
      omega

theorem tileError?_eq_none_iff : chip.tileError? = none ↔
    ∀ tile ∈ chip.tiles, tile.type < chip.types.size :=
  findSome?_zipIdx_eq_none_iff fun tile index => by simp

theorem typeError?_eq_none_iff : chip.typeError? = none ↔ ∀ type ∈ chip.types, type.Closed := by
  simp only [typeError?, List.findSome?_eq_none_iff, Array.mem_toList_iff,
    TileType.error?_eq_none_iff]

theorem nodeError?_eq_none_iff : chip.nodeError? = none ↔
    (∀ node ∈ chip.nodes, ∀ wire ∈ node, (chip.wireInfo? wire).isSome = true) ∧
      (∀ node ∈ chip.nodes, node.Nodup) ∧ chip.nodes.Pairwise List.Disjoint := by
  rw [nodeError?, nodeErrorFrom?_eq_none_iff, List.nodup_flatten]
  simp only [List.mem_flatten, Std.ExtTreeSet.not_mem_empty, not_false_eq_true, implies_true,
    and_true]
  constructor
  · exact fun ⟨exist, rest⟩ => ⟨fun node there wire member => exist wire ⟨node, there, member⟩, rest⟩
  · exact fun ⟨exist, rest⟩ => ⟨fun wire ⟨node, there, member⟩ => exist node there wire member, rest⟩

/-! ### Locations -/

theorem locationErrorFrom?_eq_none_iff (locations : List Loc) :
    ∀ seen : Std.ExtTreeSet Loc, locationErrorFrom? seen locations = none ↔
      locations.Nodup ∧ ∀ location ∈ locations, location ∉ seen := by
  induction locations with
  | nil =>
      intro seen
      simp [locationErrorFrom?]
  | cons location rest ih =>
      intro seen
      rw [locationErrorFrom?]
      by_cases old : location ∈ seen
      · simp [old]
      · rw [if_neg old, ih]
        simp only [Std.ExtTreeSet.mem_insert, Std.LawfulEqCmp.compare_eq_iff_eq, List.nodup_cons,
          List.forall_mem_cons, old, not_false_eq_true, true_and]
        constructor
        · rintro ⟨distinct, fresh⟩
          exact ⟨⟨fun again => fresh location again (Or.inl rfl), distinct⟩,
            fun other member seen => fresh other member (Or.inr seen)⟩
        · rintro ⟨⟨once, distinct⟩, fresh⟩
          refine ⟨distinct, fun other member => ?_⟩
          rintro (rfl | seen)
          · exact once member
          · exact fresh other member seen

/-- Reading as a signed number loses nothing of a number of 32 bits. -/
theorem signed32_inj {m n : Nat} (hm : m < 4294967296) (hn : n < 4294967296)
    (same : signed32 m = signed32 n) : m = n := by
  unfold signed32 at same
  have left := Int.bmod_def (m : Int) 4294967296
  have right := Int.bmod_def (n : Int) 4294967296
  omega

/-- Two tiles of a grid that is not too large differ in column or row. -/
theorem tileXY_inj (small : chip.width * chip.height < 4294967296) {tile other : Nat}
    (inGrid : tile < chip.width * chip.height) (inGrid' : other < chip.width * chip.height)
    (same : chip.tileXY tile = chip.tileXY other) : tile = other := by
  obtain ⟨column, row⟩ := Prod.mk.inj same
  have small_mod : ∀ n < chip.width * chip.height, n % chip.width < 4294967296 := fun n hn =>
    Nat.lt_of_le_of_lt (Nat.mod_le _ _) (Nat.lt_trans hn small)
  have small_div : ∀ n < chip.width * chip.height, n / chip.width < 4294967296 := fun n hn =>
    Nat.lt_of_le_of_lt (Nat.div_le_self _ _) (Nat.lt_trans hn small)
  have columns : tile % chip.width = other % chip.width :=
    signed32_inj (small_mod _ inGrid) (small_mod _ inGrid') (by exact_mod_cast column)
  have rows : tile / chip.width = other / chip.width :=
    signed32_inj (small_div _ inGrid) (small_div _ inGrid') (by exact_mod_cast row)
  rw [← Nat.div_add_mod tile chip.width, ← Nat.div_add_mod other chip.width, columns, rows]

theorem locationOf_eq (chip : Chip) (bel : BelId) (info : BelInfo) : chip.locationOf bel info =
    ⟨(chip.tileXY bel.tile).1, (chip.tileXY bel.tile).2, info.z⟩ := by
  unfold locationOf
  generalize chip.tileXY bel.tile = coordinates
  rfl

/-- The locations of the bels of one tile. -/
def locationsIn (chip : Chip) (tile : Nat) : List Loc :=
  match chip.tileType? tile with
  | none => []
  | some type => type.bels.toList.map fun info => chip.locationOf ⟨tile, 0⟩ info

theorem map_locationOf_belEntries (chip : Chip) :
    (chip.belEntries.map fun (bel, info) => chip.locationOf bel info) =
      (List.range chip.tiles.size).flatMap chip.locationsIn := by
  rw [belEntries, enumerate, List.map_flatMap]
  congr 1
  funext tile
  unfold locationsIn
  cases chip.tileType? tile with
  | none => rfl
  | some type =>
      -- the index of a bel does not enter its location
      calc _ = (type.bels.toList.zipIdx.map Prod.fst).map
              fun info => chip.locationOf ⟨tile, 0⟩ info := by
            simp only [List.map_map, Function.comp_def, locationOf_eq]
        _ = _ := by rw [List.zipIdx_map_fst]

theorem coordinates_of_mem_locationsIn {tile : Nat} {location : Loc}
    (member : location ∈ chip.locationsIn tile) : chip.tileXY tile = (location.x, location.y) := by
  unfold locationsIn at member
  cases typed : chip.tileType? tile with
  | none => simp [typed] at member
  | some type =>
      rw [typed] at member
      obtain ⟨info, _, rfl⟩ := List.mem_map.1 member
      rw [locationOf_eq]

theorem nodup_locationsIn_iff {tile : Nat} : (chip.locationsIn tile).Nodup ↔
    ∀ type, chip.tileType? tile = some type → (type.bels.toList.map BelInfo.z).Nodup := by
  unfold locationsIn
  cases typed : chip.tileType? tile with
  | none => simp
  | some type =>
      have heights : (type.bels.toList.map fun info => chip.locationOf ⟨tile, 0⟩ info) =
          (type.bels.toList.map BelInfo.z).map
            fun z => ⟨(chip.tileXY tile).1, (chip.tileXY tile).2, z⟩ := by
        simp only [List.map_map, Function.comp_def, locationOf_eq]
      have inj : Function.Injective fun z : Int =>
          (⟨(chip.tileXY tile).1, (chip.tileXY tile).2, z⟩ : Loc) := fun _ _ same => by
        simpa using same
      simp only [heights, List.nodup_map_iff inj, Option.some.injEq, forall_eq']

theorem locationError?_eq_none_iff (small : chip.width * chip.height < 4294967296)
    (filled : chip.tiles.size = chip.width * chip.height) : chip.locationError? = none ↔
      ∀ tile ∈ chip.tiles, ∀ type, chip.types[tile.type]? = some type →
        (type.bels.toList.map BelInfo.z).Nodup := by
  have elsewhere : (List.range chip.tiles.size).Pairwise
      (Function.onFun List.Disjoint chip.locationsIn) := by
    refine List.nodup_range.pairwise_of_forall_ne fun tile ht other ho ne location here there => ?_
    rw [List.mem_range, filled] at ht ho
    exact ne (tileXY_inj small ht ho
      ((coordinates_of_mem_locationsIn here).trans (coordinates_of_mem_locationsIn there).symm))
  rw [locationError?, locationErrorFrom?_eq_none_iff, map_locationOf_belEntries,
    List.nodup_flatMap]
  simp only [elsewhere, and_true, Std.ExtTreeSet.not_mem_empty, not_false_eq_true, implies_true,
    nodup_locationsIn_iff, List.mem_range]
  constructor
  · intro distinct tile member type typed
    obtain ⟨index, inside, rfl⟩ := Array.mem_iff_getElem.1 member
    exact distinct index inside type (by simp [tileType?, inside, typed])
  · intro distinct index inside type typed
    refine distinct chip.tiles[index] (Array.getElem_mem inside) type ?_
    simpa [tileType?, inside] using typed

/-! ### The whole -/

/-- **The checks pass exactly on the well-formed descriptions.** -/
theorem sound_iff : chip.Sound ↔ chip.WellFormed := by
  simp only [Sound, firstError?, Option.or_eq_none_iff, gridError?_eq_none_iff,
    tileError?_eq_none_iff, typeError?_eq_none_iff, nodeError?_eq_none_iff]
  constructor
  · rintro ⟨⟨small, filled⟩, typed, closed, ⟨members, once, apart⟩, located⟩
    exact ⟨small, filled, typed, closed, members, once, apart,
      (locationError?_eq_none_iff small filled).1 located⟩
  · rintro ⟨small, filled, typed, closed, members, once, apart, heights⟩
    exact ⟨⟨small, filled⟩, typed, closed, ⟨members, once, apart⟩,
      (locationError?_eq_none_iff small filled).2 heights⟩

end Chip

namespace Device

theorem ofChip_of_sound {chip : Chip} (sound : chip.Sound) :
    ofChip chip = .ok ⟨chip, sound, Indexes.ofChip chip, rfl⟩ := by
  unfold ofChip
  split
  · rename_i error wrong
    rw [sound] at wrong
    cases wrong
  · rfl

theorem chip_of_ofChip {chip : Chip} {device : Device} (accepted : ofChip chip = .ok device) :
    device.chip = chip := by
  unfold ofChip at accepted
  split at accepted
  · cases accepted
  · cases accepted
    rfl

/-- A description becomes a device exactly when it is well-formed. -/
theorem exists_ofChip_iff {chip : Chip} : (∃ device, ofChip chip = .ok device) ↔ chip.WellFormed := by
  rw [← Chip.sound_iff]
  constructor
  · rintro ⟨device, accepted⟩
    rw [← chip_of_ofChip accepted]
    exact device.sound
  · exact fun sound => ⟨_, ofChip_of_sound sound⟩

theorem wellFormed (device : Device) : device.chip.WellFormed :=
  Chip.sound_iff.1 device.sound

end Device

end UltraFabric
