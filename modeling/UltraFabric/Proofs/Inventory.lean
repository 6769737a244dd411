/-
# UltraFabric.Proofs.Inventory — what a device has, and the wires it names

Bels and pips are enumerated with their ids; whatever is enumerated is found under its id, and nothing
else is (`Chip.mem_enumerate_iff`).  So the pips that a search goes along are the ones that the device
finds when it is asked for them by id (`Device.mem_arcs_iff`).

A wire is named by the first member of its node.  That name is final: naming it once more gives the
same wire (`Device.canonical_canonical`), because in a sound description no wire is in two nodes.  The
wires at both ends of a pip are named in this way, and so is the wire at a pin.
-/
import UltraFabric.Device

namespace UltraFabric

set_option autoImplicit false

/-! ### Bels and pips -/

/-- Everything that is enumerated is found under its id, and nothing else is. -/
theorem Chip.mem_enumerate_iff {α : Type} {chip : Chip} {resource : Resource}
    {part : TileType → Array α} {id : Id resource} {info : α} :
    (id, info) ∈ chip.enumerate resource part ↔
      ((chip.tileType? id.tile).bind fun type => (part type)[id.index]?) = some info := by
  rw [enumerate, List.mem_flatMap]
  constructor
  · rintro ⟨tile, _, member⟩
    cases found : chip.tileType? tile with
    | none =>
        rw [found] at member
        cases member
    | some type =>
        simp only [found] at member
        obtain ⟨⟨own, index⟩, there, same⟩ := List.mem_map.1 member
        cases same
        have entry := List.mem_zipIdx_iff_getElem?.1 there
        rw [found, Option.bind_some, ← Array.getElem?_toList]
        exact entry
  · intro found
    obtain ⟨type, typed, entry⟩ := Option.bind_eq_some_iff.1 found
    have inGrid : id.tile < chip.tiles.size := by
      obtain ⟨tile, there, _⟩ := Option.bind_eq_some_iff.1 typed
      exact (Array.getElem?_eq_some_iff.1 there).1
    refine ⟨id.tile, List.mem_range.2 inGrid, ?_⟩
    simp only [typed]
    refine List.mem_map.2 ⟨(info, id.index), List.mem_zipIdx_iff_getElem?.2 ?_, rfl⟩
    rw [Array.getElem?_toList]
    exact entry

theorem Device.isBel_of_mem_bels {device : Device} {bel : BelId} {info : BelInfo}
    (member : (bel, info) ∈ device.bels) : device.isBel bel = true := by
  have found : device.bel? bel = some info := Chip.mem_enumerate_iff.1 member
  rw [isBel, found, Option.isSome_some]

/-! ### Nodes -/

namespace Chip

/-- The names of wires after one more node: its members are named by the first of them. -/
def withNode (heads : Std.ExtTreeMap WireId WireId) : List WireId → Std.ExtTreeMap WireId WireId
  | [] => heads
  | head :: rest => (head :: rest).foldl (fun heads wire => heads.insert wire head) heads

theorem nodeHeads_eq (chip : Chip) : chip.nodeHeads = chip.nodes.foldl withNode ∅ := by
  unfold nodeHeads
  congr 1
  funext heads node
  cases node <;> rfl

theorem getElem?_foldl_insert (head wire : WireId) (members : List WireId) :
    ∀ heads : Std.ExtTreeMap WireId WireId,
      (members.foldl (fun heads wire => heads.insert wire head) heads)[wire]? =
        if wire ∈ members then some head else heads[wire]? := by
  induction members with
  | nil =>
      intro heads
      simp
  | cons member rest ih =>
      intro heads
      rw [List.foldl_cons, ih, Std.ExtTreeMap.getElem?_insert]
      by_cases later : wire ∈ rest
      · simp [later]
      · by_cases here : member = wire
        · simp [here]
        · simp [here, later, Ne.symm here]

/-- Every name of a wire names itself. -/
def NamesFinal (heads : Std.ExtTreeMap WireId WireId) : Prop :=
  ∀ wire head : WireId, heads[wire]? = some head → heads[head]? = some head

/-- A node whose members have no names yet keeps names final. -/
theorem NamesFinal.withNode {heads : Std.ExtTreeMap WireId WireId} (final : NamesFinal heads)
    {node : List WireId} (fresh : ∀ wire ∈ node, heads[wire]? = none) :
    NamesFinal (withNode heads node) := by
  cases node with
  | nil => exact final
  | cons head rest =>
      intro wire name named
      rw [Chip.withNode, getElem?_foldl_insert] at named ⊢
      split at named
      · cases named
        simp
      · have known := final wire name named
        have outside : name ∉ head :: rest := by
          intro member
          rw [fresh name member] at known
          cases known
        rw [if_neg outside]
        exact known

theorem namesFinal_foldl (nodes : List (List WireId)) :
    ∀ heads, NamesFinal heads → nodes.flatten.Nodup →
      (∀ wire ∈ nodes.flatten, heads[wire]? = none) → NamesFinal (nodes.foldl withNode heads) := by
  induction nodes with
  | nil =>
      intro heads final _ _
      exact final
  | cons node rest ih =>
      intro heads final distinct fresh
      rw [List.flatten_cons, List.nodup_append] at distinct
      obtain ⟨_, distinct, apart⟩ := distinct
      have own : ∀ wire ∈ node, heads[wire]? = none := fun wire member =>
        fresh wire (List.mem_append_left _ member)
      refine ih _ (final.withNode own) distinct fun wire member => ?_
      have old : heads[wire]? = none := fresh wire (List.mem_append_right _ member)
      have elsewhere : wire ∉ node := fun here => apart wire here wire member rfl
      cases node with
      | nil => exact old
      | cons head members =>
          rw [Chip.withNode, getElem?_foldl_insert, if_neg elsewhere]
          exact old

/-- The members pass when each exists, none occurs twice and none has been seen. -/
theorem nodeErrorFrom?_eq_none_iff {chip : Chip} (wires : List WireId) :
    ∀ seen : Std.ExtTreeSet WireId, chip.nodeErrorFrom? seen wires = none ↔
      (∀ wire ∈ wires, (chip.wireInfo? wire).isSome = true) ∧ wires.Nodup ∧
        ∀ wire ∈ wires, wire ∉ seen := by
  induction wires with
  | nil =>
      intro seen
      simp [nodeErrorFrom?]
  | cons wire rest ih =>
      intro seen
      rw [nodeErrorFrom?]
      cases found : chip.wireInfo? wire with
      | none => simp [found]
      | some info =>
          by_cases old : wire ∈ seen
          · simp [old]
          · have apart : (∀ other ∈ rest, other ∉ seen.insert wire) ↔
                wire ∉ rest ∧ ∀ other ∈ rest, other ∉ seen := by
              simp only [Std.ExtTreeSet.mem_insert, Std.LawfulEqCmp.compare_eq_iff_eq]
              constructor
              · exact fun fresh => ⟨fun again => fresh wire again (Or.inl rfl),
                  fun other member seen => fresh other member (Or.inr seen)⟩
              · rintro ⟨once, fresh⟩ other member (rfl | seen)
                · exact once member
                · exact fresh other member seen
            simp only [old, if_false, ih, apart, List.forall_mem_cons, List.nodup_cons, found,
              Option.isSome_some, not_false_eq_true, true_and, and_assoc, and_left_comm]

/-- In a sound description every name is final. -/
theorem Sound.namesFinal {chip : Chip} (sound : chip.Sound) : NamesFinal chip.nodeHeads := by
  have quiet : chip.nodeError? = none := by
    simp only [Sound, firstError?, Option.or_eq_none_iff] at sound
    exact sound.2.2.2.1
  obtain ⟨_, distinct, _⟩ := (nodeErrorFrom?_eq_none_iff chip.nodes.flatten ∅).1 quiet
  rw [nodeHeads_eq]
  exact namesFinal_foldl chip.nodes ∅ (fun _ _ named => by simp at named) distinct (by simp)

end Chip

namespace Device

variable {device : Device}

/-- **The name of a wire is final.** -/
theorem canonical_canonical (device : Device) (wire : WireId) :
    device.canonical (device.canonical wire) = device.canonical wire := by
  have final : Chip.NamesFinal device.indexes.heads := by
    rw [device.indexes_eq]
    exact device.sound.namesFinal
  simp only [canonical, Std.ExtTreeMap.getD_eq_getD_getElem?]
  cases named : device.indexes.heads[wire]? with
  | none => simp [named]
  | some head => simp [final wire head named]

theorem canonical_pinWire? {bel : BelId} {pin : Name} {wire : WireId}
    (found : device.pinWire? bel pin = some wire) : device.canonical wire = wire := by
  obtain ⟨info, _, found⟩ := Option.bind_eq_some_iff.1 found
  obtain ⟨own, _, rfl⟩ := Option.map_eq_some_iff.1 found
  exact device.canonical_canonical _

/-- A pip that is found has the id that it was asked for. -/
theorem pip_of_arc? {pip : PipId} {arc : Arc} (found : device.arc? pip = some arc) :
    arc.pip = pip := by
  obtain ⟨info, _, rfl⟩ := Option.map_eq_some_iff.1 found
  rfl

theorem canonical_target {pip : PipId} {arc : Arc} (found : device.arc? pip = some arc) :
    device.canonical arc.target = arc.target := by
  obtain ⟨info, _, rfl⟩ := Option.map_eq_some_iff.1 found
  exact device.canonical_canonical _

/-- The names in the indexes are those of the chip. -/
theorem nodeHeads_eq_heads (device : Device) : device.chip.nodeHeads = device.indexes.heads := by
  rw [device.indexes_eq]
  rfl

/-- The pips of a device are those that it finds by id. -/
theorem mem_arcs_iff {arc : Arc} : arc ∈ device.arcs ↔ device.arc? arc.pip = some arc := by
  rw [arcs, Chip.arcs, nodeHeads_eq_heads, List.mem_map]
  constructor
  · rintro ⟨⟨pip, info⟩, member, rfl⟩
    have found : device.pip? pip = some info := Chip.mem_enumerate_iff.1 member
    simp only [arc?, found, Option.map_some, canonical]
  · intro found
    obtain ⟨info, there, same⟩ := Option.map_eq_some_iff.1 found
    exact ⟨(arc.pip, info), Chip.mem_enumerate_iff.2 there, same⟩

/-- A pip is in a device once. -/
theorem arc_ext {arc other : Arc} (there : arc ∈ device.arcs) (there' : other ∈ device.arcs)
    (same : arc.pip = other.pip) : arc = other := by
  rw [mem_arcs_iff] at there there'
  rw [same] at there
  exact Option.some.inj (there.symm.trans there')

/-- The pips that leave a wire are those that begin there. -/
theorem mem_leaving_iff {wire : WireId} {arc : Arc} : arc ∈ device.leaving wire ↔
    arc ∈ device.arcs ∧ arc.source = wire := by
  rw [leaving_eq_filter, List.mem_filter, decide_eq_true_iff]

/-- The pips that enter a wire are those that end there. -/
theorem mem_entering_iff {wire : WireId} {arc : Arc} : arc ∈ device.entering wire ↔
    arc ∈ device.arcs ∧ arc.target = wire := by
  rw [entering_eq_filter, List.mem_filter, decide_eq_true_iff]

end Device

end UltraFabric
