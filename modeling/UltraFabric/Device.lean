/-
# UltraFabric.Device — a chip with its indexes

A device is a sound chip together with the look-ups that placing and routing need: which wire stands
for a node, which pips leave and enter a wire, which pins touch it, and which bel has a location.
Wires are always named by the first member of their node.

The indexes are computed once, by `groupBy`; `getD_groupBy` says that looking something up in one is
the same as filtering the list behind it. A device carries the proof that its indexes belong to its
chip, so a statement about a device is one about its chip.
-/
import UltraFabric.Chip.Soundness

namespace UltraFabric

set_option autoImplicit false

section Grouping

variable {α κ : Type} [Ord κ] [Std.TransOrd κ]

/-- The items of a list by their key; items with one key keep their order. -/
def groupBy (key : α → κ) (items : List α) : Std.ExtTreeMap κ (List α) :=
  items.foldr (fun item groups =>
    groups.alter (key item) fun group => some (item :: group.getD [])) ∅

/-- A group holds exactly the items with its key. -/
theorem getD_groupBy [Std.LawfulEqOrd κ] [DecidableEq κ] (key : α → κ) (items : List α) (k : κ) :
    (groupBy key items).getD k [] = items.filter (key · = k) := by
  induction items with
  | nil => simp [groupBy]
  | cons item rest ih =>
      have hstep : groupBy key (item :: rest) =
          (groupBy key rest).alter (key item) fun group => some (item :: group.getD []) := rfl
      rw [hstep, Std.ExtTreeMap.getD_alter]
      by_cases h : key item = k
      · subst h
        simp only [Std.ReflCmp.compare_self, if_true, Option.getD_some, List.filter_cons,
          decide_true]
        rw [← ih, Std.ExtTreeMap.getD_eq_getD_getElem?]
      · simp [h, ih]

end Grouping

/-- A pip together with the wires it joins, each named for its node. -/
structure Arc where
  pip : PipId
  source : WireId
  target : WireId
  info : PipInfo
  deriving DecidableEq, Repr

/-- The bel that is crossed when the pip is used. -/
def Arc.crossedBel? (arc : Arc) : Option BelId :=
  arc.info.crossedBel?.map fun index => ⟨arc.pip.tile, index⟩

namespace Chip

/-- Which wire stands for the node of a wire, for all wires in nodes. -/
def nodeHeads (chip : Chip) : Std.ExtTreeMap WireId WireId :=
  chip.nodes.foldl (fun heads node =>
    match node with
    | [] => heads
    | head :: _ => node.foldl (fun heads wire => heads.insert wire head) heads) ∅

/-- The members of each node, by the wire that stands for it. -/
def nodeMembers (chip : Chip) : Std.ExtTreeMap WireId (List WireId) :=
  chip.nodes.foldl (fun members node =>
    match node with
    | [] => members
    | head :: _ => members.insert head node) ∅

/-- All pips with the wires they join. -/
def arcs (chip : Chip) : List Arc :=
  let heads := chip.nodeHeads
  let canonical (wire : WireId) : WireId := heads.getD wire wire
  chip.pipEntries.map fun (pip, info) =>
    ⟨pip, canonical ⟨pip.tile, info.source⟩, canonical ⟨pip.tile, info.target⟩, info⟩

/-- All pins of bels with the wires they touch. -/
def pinEntries (chip : Chip) : List (WireId × BelId × Name) :=
  let heads := chip.nodeHeads
  chip.belEntries.flatMap fun (bel, info) =>
    info.pins.map fun pin =>
      let wire : WireId := ⟨bel.tile, pin.wire⟩
      (heads.getD wire wire, bel, pin.name)

def belsByLocation (chip : Chip) : Std.ExtTreeMap Loc BelId :=
  chip.belEntries.foldl (fun bels (bel, info) => bels.insert (chip.locationOf bel info) bel) ∅

end Chip

/-- The look-ups of a device. -/
structure Indexes where
  heads : Std.ExtTreeMap WireId WireId
  members : Std.ExtTreeMap WireId (List WireId)
  leaving : Std.ExtTreeMap WireId (List Arc)
  entering : Std.ExtTreeMap WireId (List Arc)
  pins : Std.ExtTreeMap WireId (List (WireId × BelId × Name))
  belAt : Std.ExtTreeMap Loc BelId

def Indexes.ofChip (chip : Chip) : Indexes where
  heads := chip.nodeHeads
  members := chip.nodeMembers
  leaving := groupBy Arc.source chip.arcs
  entering := groupBy Arc.target chip.arcs
  pins := groupBy Prod.fst chip.pinEntries
  belAt := chip.belsByLocation

/-- A sound chip with its look-ups. -/
structure Device where
  chip : Chip
  sound : chip.Sound
  indexes : Indexes
  indexes_eq : indexes = Indexes.ofChip chip

namespace Device

/-- The device of a chip, or what is wrong with the chip. -/
def ofChip (chip : Chip) : Except ChipError Device :=
  match h : chip.firstError? with
  | some error => .error error
  | none => .ok ⟨chip, h, Indexes.ofChip chip, rfl⟩

/-- Width of the grid, as a signed number of 32 bits. -/
def width (device : Device) : Int :=
  signed32 device.chip.width

def height (device : Device) : Int :=
  signed32 device.chip.height

def tileCount (device : Device) : Nat :=
  device.chip.tiles.size

def tileAt? (device : Device) (x y : Int) : Option Nat :=
  if x < 0 ∨ y < 0 ∨ device.width ≤ x ∨ device.height ≤ y then none
  else some (y.toNat * device.chip.width + x.toNat)

/-- Column and row of a tile, of the grid or beyond it. -/
def tileXY (device : Device) (tile : Nat) : Answer (Int × Int) :=
  if device.chip.width = 0 then .error .emptyGrid else .ok (device.chip.tileXY tile)

/-! ### Bels -/

def bels (device : Device) : List (BelId × BelInfo) :=
  device.chip.belEntries

def bel? (device : Device) (bel : BelId) : Option BelInfo :=
  device.chip.belInfo? bel

def isBel (device : Device) (bel : BelId) : Bool :=
  (device.bel? bel).isSome

def location? (device : Device) (bel : BelId) : Option Loc :=
  (device.bel? bel).map (device.chip.locationOf bel)

def belAt? (device : Device) (location : Loc) : Option BelId :=
  device.indexes.belAt[location]?

/-- The group of bels with which a bel shares its multiplexers. -/
def muxGroup? (device : Device) (bel : BelId) : Option MuxGroup :=
  (device.bel? bel).bind fun info =>
    info.muxGroup.bind fun group =>
      (device.chip.tileType? bel.tile).bind fun type => type.muxGroups[group]?

/-! ### Wires -/

def canonical (device : Device) (wire : WireId) : WireId :=
  device.indexes.heads.getD wire wire

/-- All wires of the node that `wire` stands for. -/
def members (device : Device) (wire : WireId) : List WireId :=
  device.indexes.members.getD wire [wire]

def wire? (device : Device) (wire : WireId) : Option WireInfo :=
  device.chip.wireInfo? wire

/-- The wire at a pin of a bel that is known. -/
def wireAt? (device : Device) (bel : BelId) (pin : Name) (info : BelInfo) : Option WireId :=
  (info.pin? pin).map fun pin => device.canonical ⟨bel.tile, pin.wire⟩

/-- The wire at a pin of a bel. -/
def pinWire? (device : Device) (bel : BelId) (pin : Name) : Option WireId :=
  (device.bel? bel).bind (device.wireAt? bel pin)

/-- The pins of bels that touch a wire. -/
def pinsOn (device : Device) (wire : WireId) : List (BelId × Name) :=
  (device.indexes.pins.getD wire []).map Prod.snd

/-! ### Pips -/

def arcs (device : Device) : List Arc :=
  device.chip.arcs

def leaving (device : Device) (wire : WireId) : List Arc :=
  device.indexes.leaving.getD wire []

def entering (device : Device) (wire : WireId) : List Arc :=
  device.indexes.entering.getD wire []

def pip? (device : Device) (pip : PipId) : Option PipInfo :=
  device.chip.pipInfo? pip

def arc? (device : Device) (pip : PipId) : Option Arc :=
  (device.pip? pip).map fun info =>
    ⟨pip, device.canonical ⟨pip.tile, info.source⟩, device.canonical ⟨pip.tile, info.target⟩, info⟩

theorem leaving_eq_filter (device : Device) (wire : WireId) :
    device.leaving wire = device.arcs.filter (·.source = wire) := by
  rw [leaving, device.indexes_eq]
  exact getD_groupBy Arc.source device.chip.arcs wire

theorem entering_eq_filter (device : Device) (wire : WireId) :
    device.entering wire = device.arcs.filter (·.target = wire) := by
  rw [entering, device.indexes_eq]
  exact getD_groupBy Arc.target device.chip.arcs wire

end Device

end UltraFabric
