/-
# UltraFabric.Proofs.Ranges — ids that come from a device lead back into it

The look-ups of a device answer for ids that name something and for no others.  Nobody who got an id
from the device has to ask first: `Obtained` collects the ids that can be had, beginning with the
lists and the indexes and going on from any of them to the wires, bels and tiles that it mentions,
and `inRange_of_obtained` says that each of them is answered.

What carries the proof is `Chip.WellFormed`, which an accepted description satisfies: an id that is
built from an index inside a tile type is answered because the type is closed, and one that stands
for a node because nodes are made of wires that exist.
-/
import UltraFabric.Cluster
import UltraFabric.Proofs.Acceptance

namespace UltraFabric

set_option autoImplicit false

/-- Something of a device, by its number or id. -/
inductive Ref where
  | tile (tile : Nat)
  | bel (bel : BelId)
  | wire (wire : WireId)
  | pip (pip : PipId)

namespace Device

variable {device : Device} {tile : Nat} {bel : BelId} {wire : WireId} {pip : PipId}

/-- A tile of the grid, of a type that exists, with coordinates. -/
structure HasTile (device : Device) (tile : Nat) : Prop where
  inGrid : tile < device.tileCount
  typed : ∃ type, device.chip.tileType? tile = some type
  placed : ∃ place, device.tileXY tile = .ok place

/-- Every look-up that takes the id answers. -/
def InRange (device : Device) : Ref → Prop
  | .tile tile => device.HasTile tile
  | .bel bel => device.HasTile bel.tile ∧ (∃ info, device.bel? bel = some info) ∧
      ∃ location, device.location? bel = some location
  | .wire wire => device.HasTile wire.tile ∧ ∃ info, device.wire? wire = some info
  | .pip pip => device.HasTile pip.tile ∧ (∃ info, device.pip? pip = some info) ∧
      ∃ arc, device.arc? pip = some arc

/-- The ids that a device gives out, alone or in answer to one that it has given out. -/
inductive Obtained (device : Device) : Ref → Prop where
  | listed {bel : BelId} {info : BelInfo} (found : (bel, info) ∈ device.bels) :
      Obtained device (.bel bel)
  | located {location : Loc} {bel : BelId} (found : device.belAt? location = some bel) :
      Obtained device (.bel bel)
  | pinned {wire : WireId} {bel : BelId} {pin : Name} (found : (bel, pin) ∈ device.pinsOn wire) :
      Obtained device (.bel bel)
  | leaving {wire : WireId} {arc : Arc} (found : arc ∈ device.leaving wire) :
      Obtained device (.pip arc.pip)
  | entering {wire : WireId} {arc : Arc} (found : arc ∈ device.entering wire) :
      Obtained device (.pip arc.pip)
  | covering {x y : Int} {tile : Nat} (found : device.tileAt? x y = some tile) :
      Obtained device (.tile tile)
  | counted {tile : Nat} (inGrid : tile < device.tileCount) : Obtained device (.tile tile)
  | canonical {wire : WireId} (known : Obtained device (.wire wire)) :
      Obtained device (.wire (device.canonical wire))
  | member {wire member : WireId} (known : Obtained device (.wire wire))
      (found : member ∈ device.members wire) : Obtained device (.wire member)
  | source {pip : PipId} {arc : Arc} (known : Obtained device (.pip pip))
      (found : device.arc? pip = some arc) : Obtained device (.wire arc.source)
  | target {pip : PipId} {arc : Arc} (known : Obtained device (.pip pip))
      (found : device.arc? pip = some arc) : Obtained device (.wire arc.target)
  | ownSource {pip : PipId} {info : PipInfo} (known : Obtained device (.pip pip))
      (found : device.pip? pip = some info) : Obtained device (.wire ⟨pip.tile, info.source⟩)
  | through {pip : PipId} {info : PipInfo} {detail : PipDetail} {index : Nat}
      (known : Obtained device (.pip pip)) (found : device.pip? pip = some info)
      (detailed : info.detail = some detail) (named : detail.bel = some index) :
      Obtained device (.bel ⟨pip.tile, index⟩)
  | pin {bel : BelId} {pin : Name} {wire : WireId} (known : Obtained device (.bel bel))
      (found : device.pinWire? bel pin = some wire) : Obtained device (.wire wire)
  | grouped {bel : BelId} {group : MuxGroup} {index : Nat} (known : Obtained device (.bel bel))
      (found : device.muxGroup? bel = some group) (named : index ∈ group.bels) :
      Obtained device (.bel ⟨bel.tile, index⟩)
  | tileOfBel {bel : BelId} (known : Obtained device (.bel bel)) : Obtained device (.tile bel.tile)
  | tileOfWire {wire : WireId} (known : Obtained device (.wire wire)) :
      Obtained device (.tile wire.tile)
  | tileOfPip {pip : PipId} (known : Obtained device (.pip pip)) : Obtained device (.tile pip.tile)

/-! ### Tiles and what is in them -/

theorem hasTile_of_lt (inGrid : tile < device.tileCount) : device.HasTile tile := by
  have shape := device.wellFormed
  have typed := shape.typed device.chip.tiles[tile] (Array.getElem_mem inGrid)
  have columns : device.chip.width ≠ 0 := fun none => by
    have inside : tile < device.chip.tiles.size := inGrid
    rw [shape.filled, none, Nat.zero_mul] at inside
    exact Nat.not_lt_zero _ inside
  refine ⟨inGrid, ⟨device.chip.types[device.chip.tiles[tile].type], ?_⟩, ⟨_, if_neg columns⟩⟩
  rw [Chip.tileType?, Array.getElem?_eq_getElem inGrid, Option.bind_some,
    Array.getElem?_eq_getElem typed]

theorem hasTile_of_typed {type : TileType} (typed : device.chip.tileType? tile = some type) :
    device.HasTile tile := by
  obtain ⟨_, there, _⟩ := Option.bind_eq_some_iff.1 typed
  exact hasTile_of_lt (Array.getElem?_eq_some_iff.1 there).1

/-- The types of the tiles of a device are closed. -/
theorem closed_of_typed {type : TileType} (typed : device.chip.tileType? tile = some type) :
    type.Closed := by
  obtain ⟨own, _, there⟩ := Option.bind_eq_some_iff.1 typed
  exact device.wellFormed.closed type (Array.mem_of_getElem? there)

theorem inRange_bel {info : BelInfo} (found : device.bel? bel = some info) :
    device.InRange (.bel bel) := by
  obtain ⟨type, typed, _⟩ := Option.bind_eq_some_iff.1 found
  exact ⟨hasTile_of_typed typed, ⟨info, found⟩, ⟨_, by rw [location?, found, Option.map_some]⟩⟩

theorem inRange_wire {info : WireInfo} (found : device.wire? wire = some info) :
    device.InRange (.wire wire) := by
  obtain ⟨type, typed, _⟩ := Option.bind_eq_some_iff.1 found
  exact ⟨hasTile_of_typed typed, ⟨info, found⟩⟩

theorem inRange_pip {info : PipInfo} (found : device.pip? pip = some info) :
    device.InRange (.pip pip) := by
  obtain ⟨type, typed, _⟩ := Option.bind_eq_some_iff.1 found
  exact ⟨hasTile_of_typed typed, ⟨info, found⟩, ⟨_, by rw [arc?, found, Option.map_some]⟩⟩

theorem inRange_of_belIndex {type : TileType} (typed : device.chip.tileType? tile = some type)
    {index : Nat} (inside : index < type.bels.size) : device.InRange (.bel ⟨tile, index⟩) := by
  have found : device.bel? ⟨tile, index⟩ = some type.bels[index] := by
    simp [bel?, Chip.belInfo?, typed, inside]
  exact inRange_bel found

theorem inRange_of_wireIndex {type : TileType} (typed : device.chip.tileType? tile = some type)
    {index : Nat} (inside : index < type.wires.size) : device.InRange (.wire ⟨tile, index⟩) := by
  have found : device.wire? ⟨tile, index⟩ = some type.wires[index] := by
    simp [wire?, Chip.wireInfo?, typed, inside]
  exact inRange_wire found

/-- The tile that covers a place of the grid. -/
theorem lt_of_tileAt? {x y : Int} (found : device.tileAt? x y = some tile) :
    tile < device.tileCount := by
  have below : ∀ n : Nat, signed32 n ≤ n := fun n => by
    unfold signed32
    have split := Int.bmod_def (n : Int) 4294967296
    omega
  unfold tileAt? at found
  split at found
  · cases found
  · rename_i inside
    have column : x.toNat < device.chip.width := by
      have := below device.chip.width
      simp only [width] at inside
      omega
    have row : y.toNat < device.chip.height := by
      have := below device.chip.height
      simp only [height] at inside
      omega
    cases found
    rw [tileCount, device.wellFormed.filled]
    calc y.toNat * device.chip.width + x.toNat
        < y.toNat * device.chip.width + device.chip.width := by omega
      _ = (y.toNat + 1) * device.chip.width := by rw [Nat.succ_mul]
      _ ≤ device.chip.height * device.chip.width := Nat.mul_le_mul_right _ row
      _ = device.chip.width * device.chip.height := Nat.mul_comm _ _

/-- **What is found at a location is a bel at that location.** -/
theorem location?_of_belAt? {location : Loc} (found : device.belAt? location = some bel) :
    device.location? bel = some location := by
  rw [belAt?, device.indexes_eq] at found
  refine List.foldlRecOn (motive := fun bels : Std.ExtTreeMap Loc BelId => ∀ location bel,
    bels[location]? = some bel → device.location? bel = some location)
    _ _ ?_ ?_ location bel found
  · intro location bel found
    simp at found
  rintro bels known ⟨first, info⟩ member location bel found
  rw [Std.ExtTreeMap.getElem?_insert] at found
  split at found
  · rename_i here
    rw [Std.LawfulEqCmp.compare_eq_iff_eq] at here
    cases found
    have there : device.bel? first = some info := Chip.mem_enumerate_iff.1 member
    rw [location?, there, Option.map_some, here]
  · exact known location bel found

/-! ### Nodes -/

theorem inRange_of_mem_node {node : List WireId} (there : node ∈ device.chip.nodes)
    (member : wire ∈ node) : device.InRange (.wire wire) := by
  obtain ⟨info, found⟩ := Option.isSome_iff_exists.1
    (device.wellFormed.members node there wire member)
  exact inRange_wire found

/-- What stands for a wire, in names that come from nodes, is in one of these nodes. -/
theorem mem_of_foldl_withNode (nodes : List (List WireId)) {head : WireId} :
    ∀ heads : Std.ExtTreeMap WireId WireId,
      (nodes.foldl Chip.withNode heads)[wire]? = some head →
        heads[wire]? = some head ∨ ∃ node ∈ nodes, head ∈ node := by
  induction nodes with
  | nil => exact fun heads named => Or.inl named
  | cons node rest ih =>
      intro heads named
      rcases ih _ named with named | ⟨other, there, member⟩
      · cases node with
        | nil => exact Or.inl named
        | cons first members =>
            rw [Chip.withNode, Chip.getElem?_foldl_insert] at named
            split at named
            · cases named
              exact Or.inr ⟨_, List.mem_cons_self, List.mem_cons_self⟩
            · exact Or.inl named
      · exact Or.inr ⟨other, List.mem_cons_of_mem _ there, member⟩

theorem inRange_canonical (known : device.InRange (.wire wire)) :
    device.InRange (.wire (device.canonical wire)) := by
  rw [canonical, device.indexes_eq, Std.ExtTreeMap.getD_eq_getD_getElem?]
  cases named : (Indexes.ofChip device.chip).heads[wire]? with
  | none => exact known
  | some head =>
      rw [Indexes.ofChip, Chip.nodeHeads_eq] at named
      rcases mem_of_foldl_withNode _ _ named with named | ⟨node, there, member⟩
      · simp at named
      · exact inRange_of_mem_node there member

/-- The members that are kept for a wire are those of a node. -/
theorem mem_nodes_of_nodeMembers {chip : Chip} {found : List WireId}
    (there : chip.nodeMembers[wire]? = some found) : found ∈ chip.nodes := by
  refine List.foldlRecOn (motive := fun members : Std.ExtTreeMap WireId (List WireId) =>
    ∀ wire found, members[wire]? = some found → found ∈ chip.nodes) _ _ ?_ ?_ wire found there
  · intro wire found there
    simp at there
  · intro members inside node member wire found there
    cases node with
    | nil => exact inside wire found there
    | cons head others =>
        simp only [Std.ExtTreeMap.getElem?_insert] at there
        split at there
        · cases there
          exact member
        · exact inside wire found there

/-- A wire has the members of a node, or itself alone. -/
theorem members_cases (device : Device) (wire : WireId) :
    device.members wire = [wire] ∨ device.members wire ∈ device.chip.nodes := by
  rw [members, device.indexes_eq, Std.ExtTreeMap.getD_eq_getD_getElem?]
  cases there : (Indexes.ofChip device.chip).members[wire]? with
  | none => exact Or.inl rfl
  | some found => exact Or.inr (mem_nodes_of_nodeMembers there)

theorem inRange_of_mem_members {member : WireId} (known : device.InRange (.wire wire))
    (there : member ∈ device.members wire) : device.InRange (.wire member) := by
  rcases device.members_cases wire with alone | node
  · rw [alone] at there
    cases List.mem_singleton.1 there
    exact known
  · exact inRange_of_mem_node node there

/-! ### Bels and pips from the indexes -/

theorem inRange_of_mem_pinsOn {pin : Name} (found : (bel, pin) ∈ device.pinsOn wire) :
    device.InRange (.bel bel) := by
  rw [pinsOn, device.indexes_eq] at found
  obtain ⟨⟨touched, pair⟩, grouped, rfl⟩ := List.mem_map.1 found
  rw [Indexes.ofChip, getD_groupBy] at grouped
  obtain ⟨⟨own, info⟩, there, ofBel⟩ := List.mem_flatMap.1 (List.mem_filter.1 grouped).1
  obtain ⟨ownPin, _, same⟩ := List.mem_map.1 ofBel
  cases same
  exact inRange_bel (Chip.mem_enumerate_iff.1 there)

theorem inRange_of_mem_arcs {arc : Arc} (there : arc ∈ device.arcs) :
    device.InRange (.pip arc.pip) := by
  obtain ⟨info, found, _⟩ := Option.map_eq_some_iff.1 (mem_arcs_iff.1 there)
  exact inRange_pip found

/-- The wires of a pip, by their own names, and the bel it leads through. -/
theorem inRange_of_pip? {info : PipInfo} (found : device.pip? pip = some info) :
    device.InRange (.wire ⟨pip.tile, info.source⟩) ∧
      device.InRange (.wire ⟨pip.tile, info.target⟩) ∧
      ∀ detail, info.detail = some detail → ∀ index, detail.bel = some index →
        device.InRange (.bel ⟨pip.tile, index⟩) := by
  obtain ⟨type, typed, there⟩ := Option.bind_eq_some_iff.1 found
  have closed := closed_of_typed typed
  have member : info ∈ type.pips := Array.mem_of_getElem? there
  have ends := closed.ends info member
  exact ⟨inRange_of_wireIndex typed ends.1, inRange_of_wireIndex typed ends.2,
    fun detail detailed index named =>
      inRange_of_belIndex typed (closed.crossed info member detail detailed index named)⟩

theorem inRange_of_arc? {arc : Arc} (found : device.arc? pip = some arc) :
    device.InRange (.wire arc.source) ∧ device.InRange (.wire arc.target) := by
  obtain ⟨info, there, rfl⟩ := Option.map_eq_some_iff.1 found
  have ends := inRange_of_pip? there
  exact ⟨inRange_canonical ends.1, inRange_canonical ends.2.1⟩

/-- The bel that a pip of the device leads through. -/
theorem isBel_of_crossedBel? {arc : Arc} (there : arc ∈ device.arcs)
    (crosses : arc.crossedBel? = some bel) : device.isBel bel = true := by
  obtain ⟨info, found, own⟩ := Option.map_eq_some_iff.1 (mem_arcs_iff.1 there)
  obtain ⟨index, through, rfl⟩ := Option.map_eq_some_iff.1 crosses
  rw [← own, PipInfo.crossedBel?] at through
  cases detailed : info.detail with
  | none => simp [detailed] at through
  | some detail =>
      have named : detail.bel = some index := by
        simp only [detailed] at through
        split at through
        · exact through
        · cases through
      obtain ⟨_, ⟨data, known⟩, _⟩ := (inRange_of_pip? found).2.2 detail detailed index named
      rw [isBel, known, Option.isSome_some]

theorem inRange_of_pinWire? {pin : Name} (found : device.pinWire? bel pin = some wire) :
    device.InRange (.wire wire) := by
  obtain ⟨info, there, found⟩ := Option.bind_eq_some_iff.1 found
  obtain ⟨own, listed, rfl⟩ := Option.map_eq_some_iff.1 found
  obtain ⟨type, typed, ofType⟩ := Option.bind_eq_some_iff.1 there
  have inside := (closed_of_typed typed).pins info (Array.mem_of_getElem? ofType) own
    (List.mem_of_find?_eq_some listed)
  exact inRange_canonical (inRange_of_wireIndex typed inside)

theorem inRange_of_muxGroup? {group : MuxGroup} (found : device.muxGroup? bel = some group)
    {index : Nat} (named : index ∈ group.bels) : device.InRange (.bel ⟨bel.tile, index⟩) := by
  obtain ⟨info, _, found⟩ := Option.bind_eq_some_iff.1 found
  obtain ⟨number, _, found⟩ := Option.bind_eq_some_iff.1 found
  obtain ⟨type, typed, there⟩ := Option.bind_eq_some_iff.1 found
  exact inRange_of_belIndex typed
    ((closed_of_typed typed).groups group (Array.mem_of_getElem? there) index named)

/-! ### Everything that can be had -/

/-- One step from an id in range, or from the device itself, gives an id in range. -/
theorem inRange_of_obtained {ref : Ref} (obtained : device.Obtained ref) : device.InRange ref := by
  induction obtained with
  | listed found => exact inRange_bel (Chip.mem_enumerate_iff.1 found)
  | located found =>
      obtain ⟨info, listed⟩ := exists_mem_bels_of_belAt? found
      exact inRange_bel (Chip.mem_enumerate_iff.1 listed)
  | pinned found => exact inRange_of_mem_pinsOn found
  | leaving found => exact inRange_of_mem_arcs (mem_leaving_iff.1 found).1
  | entering found => exact inRange_of_mem_arcs (mem_entering_iff.1 found).1
  | covering found => exact hasTile_of_lt (lt_of_tileAt? found)
  | counted inGrid => exact hasTile_of_lt inGrid
  | canonical _ known => exact inRange_canonical known
  | member _ found known => exact inRange_of_mem_members known found
  | source _ found _ => exact (inRange_of_arc? found).1
  | target _ found _ => exact (inRange_of_arc? found).2
  | ownSource _ found _ => exact (inRange_of_pip? found).1
  | through _ found detailed named _ => exact (inRange_of_pip? found).2.2 _ detailed _ named
  | pin _ found _ => exact inRange_of_pinWire? found
  | grouped _ found named _ => exact inRange_of_muxGroup? found named
  | tileOfBel _ known => exact known.1
  | tileOfWire _ known => exact known.1
  | tileOfPip _ known => exact known.1

/-- **A description becomes a device exactly when it is well-formed.**  The device is of this very chip,
and whatever id it gives out, it answers for. -/
theorem accepts_wellFormed (chip : Chip) :
    ((∃ device, ofChip chip = .ok device) ↔ chip.WellFormed) ∧
      ∀ device, ofChip chip = .ok device →
        device.chip = chip ∧ ∀ ref, device.Obtained ref → device.InRange ref :=
  ⟨exists_ofChip_iff, fun _ accepted =>
    ⟨chip_of_ofChip accepted, fun _ obtained => inRange_of_obtained obtained⟩⟩

end Device

/-! ### A sample: a node that joins two tiles -/

namespace RangeSample

/-- The pin of the bel leads through the bel to a wire that the next tile shares. -/
def tileType : TileType :=
  ⟨"T", #[⟨"W", "WFG", 0, 0, [⟨"ZO", 0, .output⟩], some 0, none⟩], #[⟨"W.ZO", "", 0⟩, ⟨"ring", "", 1⟩],
    #[⟨0, 1, 0, some ⟨"W.BYPASS", 0, .bypass, some 0⟩⟩], #[⟨[0], ["ZI"]⟩]⟩

def chip : Chip :=
  ⟨"two", 2, 1, #[tileType], #[⟨0, none⟩, ⟨0, none⟩], [[⟨0, 1⟩, ⟨1, 1⟩]], []⟩

theorem sound : chip.Sound := by
  decide +kernel

def device : Device :=
  ⟨chip, sound, Indexes.ofChip chip, rfl⟩

/-- The one pip that leaves the pin. -/
def arc : Arc :=
  ⟨⟨0, 0⟩, ⟨0, 0⟩, ⟨0, 1⟩, ⟨0, 1, 0, some ⟨"W.BYPASS", 0, .bypass, some 0⟩⟩⟩

/-- The other tile is had from a pip, by way of the wire at its end and the node of that wire. -/
theorem obtained_tile : device.Obtained (.tile 1) :=
  have pip : device.Obtained (.pip arc.pip) :=
    .leaving (show arc ∈ device.leaving ⟨0, 0⟩ by decide +kernel)
  have ring : device.Obtained (.wire ⟨0, 1⟩) :=
    .target pip (show device.arc? arc.pip = some arc by decide +kernel)
  have shared : device.Obtained (.wire ⟨1, 1⟩) :=
    .member ring (by decide +kernel)
  .tileOfWire shared

/-- The sample is accepted, and the other tile is there. -/
theorem accepts_chip : chip.WellFormed ∧ Device.ofChip chip = .ok device ∧ device.HasTile 1 := by
  have accepted := Device.ofChip_of_sound sound
  obtain ⟨iff, answers⟩ := Device.accepts_wellFormed chip
  exact ⟨iff.1 ⟨device, accepted⟩, accepted, (answers device accepted).2 (.tile 1) obtained_tile⟩

example : ({ chip with nodes := [[⟨0, 1⟩, ⟨1, 1⟩], [⟨1, 1⟩]] } : Chip).firstError? =
    some (.sharedMember ⟨1, 1⟩) := by decide +kernel

end RangeSample

end UltraFabric
