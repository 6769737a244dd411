/-
# UltraFabric.Proofs.Nodes — nodes part the wires of a device

A wire of a node goes by the name of the first member, and under that name the members of the node are
kept.  A wire in no node goes by its own name and is alone.

Both indexes are filled by one walk over the nodes.  What a step of the walk enters is under wires of its
own node only (`Chip.getElem?_withNode`, `Chip.getElem?_keepNode`), and nodes share no wires
(`Device.reached_once`); so no step replaces what another one has entered, and wires in no node are never
touched.

* `canonical_of_node`, `members_of_node`: what is found for a wire of a node;
* `canonical_of_lone`, `members_of_lone`: what is found for any other wire;
* `parted`: names stand for nodes one to one.
-/
import UltraFabric.Proofs.Entries
import UltraFabric.Proofs.Ranges

namespace UltraFabric

set_option autoImplicit false

namespace Chip

/-! ### One step of the walk -/

/-- The members that are kept, after one more node. -/
def keepNode (members : Std.ExtTreeMap WireId (List WireId)) :
    List WireId → Std.ExtTreeMap WireId (List WireId)
  | [] => members
  | head :: rest => members.insert head (head :: rest)

theorem nodeMembers_eq (chip : Chip) : chip.nodeMembers = chip.nodes.foldl keepNode ∅ := by
  unfold nodeMembers
  congr 1
  funext members node
  cases node <;> rfl

theorem getElem?_withNode {wire : WireId} (heads : Std.ExtTreeMap WireId WireId)
    (node : List WireId) (outside : wire ∉ node) : (withNode heads node)[wire]? = heads[wire]? := by
  cases node with
  | nil => rfl
  | cons head rest => rw [withNode, getElem?_foldl_insert, if_neg outside]

theorem getElem?_keepNode {wire : WireId} (members : Std.ExtTreeMap WireId (List WireId))
    (node : List WireId) (outside : wire ∉ node) : (keepNode members node)[wire]? = members[wire]? := by
  cases node with
  | nil => rfl
  | cons head rest =>
      have different : head ≠ wire := fun same => outside (same ▸ List.mem_cons_self)
      simp [keepNode, Std.ExtTreeMap.getElem?_insert, different]

end Chip

namespace Device

variable {device : Device} {wire head : WireId} {rest : List WireId}

/-- A wire that is in no node. -/
def Lone (device : Device) (wire : WireId) : Prop :=
  ∀ node ∈ device.chip.nodes, wire ∉ node

/-! ### What is found for a wire -/

/-- No two nodes share a wire. -/
theorem reached_once (device : Device) (wire : WireId) :
    device.chip.nodes.Pairwise fun node other => wire ∈ node → wire ∉ other :=
  device.wellFormed.apart.imp fun apart here there => apart here there

theorem heads_eq (device : Device) :
    device.indexes.heads = device.chip.nodes.foldl Chip.withNode ∅ := by
  rw [← nodeHeads_eq_heads, Chip.nodeHeads_eq]

theorem kept_eq (device : Device) :
    device.indexes.members = device.chip.nodes.foldl Chip.keepNode ∅ := by
  rw [device.indexes_eq, Indexes.ofChip, Chip.nodeMembers_eq]

/-- A wire of a node goes by the name of the first member. -/
theorem canonical_of_node (there : head :: rest ∈ device.chip.nodes) (member : wire ∈ head :: rest) :
    device.canonical wire = head := by
  have named : device.indexes.heads[wire]? = some head := by
    rw [heads_eq]
    refine Entries.getElem?_foldl_of_touched Chip.getElem?_withNode (device.reached_once wire) there
      member (fun heads => ?_) ∅
    rw [Chip.withNode, Chip.getElem?_foldl_insert, if_pos member]
  rw [canonical, Std.ExtTreeMap.getD_eq_getD_getElem?, named, Option.getD_some]

/-- Under the name of a node its members are kept. -/
theorem members_of_node (there : head :: rest ∈ device.chip.nodes) :
    device.members head = head :: rest := by
  have kept : device.indexes.members[head]? = some (head :: rest) := by
    rw [kept_eq]
    refine Entries.getElem?_foldl_of_touched Chip.getElem?_keepNode (device.reached_once head) there
      List.mem_cons_self (fun members => ?_) ∅
    rw [Chip.keepNode, Std.ExtTreeMap.getElem?_insert_self]
  rw [members, Std.ExtTreeMap.getD_eq_getD_getElem?, kept, Option.getD_some]

theorem canonical_of_lone (lone : device.Lone wire) : device.canonical wire = wire := by
  rw [canonical, Std.ExtTreeMap.getD_eq_getD_getElem?, heads_eq,
    Entries.getElem?_foldl_of_untouched Chip.getElem?_withNode lone]
  simp

theorem members_of_lone (lone : device.Lone wire) : device.members wire = [wire] := by
  rw [members, Std.ExtTreeMap.getD_eq_getD_getElem?, kept_eq,
    Entries.getElem?_foldl_of_untouched Chip.getElem?_keepNode lone]
  simp

/-- A wire is in a node that begins with some wire, or in none. -/
theorem node_cases (device : Device) (wire : WireId) :
    (∃ head rest, head :: rest ∈ device.chip.nodes ∧ wire ∈ head :: rest) ∨ device.Lone wire := by
  by_cases lone : device.Lone wire
  · exact Or.inr lone
  · simp only [Lone, not_forall, not_not] at lone
    obtain ⟨node, there, member⟩ := lone
    cases node with
    | nil => cases member
    | cons head rest => exact Or.inl ⟨head, rest, there, member⟩

/-- A wire is among those that go by its name. -/
theorem mem_members_canonical (device : Device) (wire : WireId) :
    wire ∈ device.members (device.canonical wire) := by
  rcases device.node_cases wire with ⟨head, rest, there, member⟩ | lone
  · rw [canonical_of_node there member, members_of_node there]
    exact member
  · rw [canonical_of_lone lone, members_of_lone lone]
    exact List.mem_singleton_self wire

/-- Whoever is kept under the name of a wire goes by that name. -/
theorem canonical_of_mem_members {other : WireId}
    (member : other ∈ device.members (device.canonical wire)) :
    device.canonical other = device.canonical wire := by
  rcases device.node_cases wire with ⟨head, rest, there, own⟩ | lone
  · rw [canonical_of_node there own, members_of_node there] at member
    rw [canonical_of_node there own, canonical_of_node there member]
  · rw [canonical_of_lone lone, members_of_lone lone, List.mem_singleton] at member
    rw [member]

theorem nodup_members (device : Device) (wire : WireId) : (device.members wire).Nodup := by
  rcases device.members_cases wire with alone | node
  · rw [alone]
    exact List.nodup_singleton wire
  · exact device.wellFormed.once _ node

/-! ### Wires in classes -/

/-- Names part the wires: each class has one name, which is that of one of its members, and under that
name each member is kept once.  The classes are the nodes, and each other wire by itself. -/
structure Parted (device : Device) : Prop where
  final : ∀ wire, device.canonical (device.canonical wire) = device.canonical wire
  joined : ∀ wire other, other ∈ device.members (device.canonical wire) ↔
    device.canonical other = device.canonical wire
  once : ∀ wire, (device.members (device.canonical wire)).count wire = 1
  alone : ∀ wire, device.Lone wire → device.canonical wire = wire ∧ device.members wire = [wire]
  nodes : ∀ node ∈ device.chip.nodes, ∀ wire ∈ node,
    node.head? = some (device.canonical wire) ∧ device.members (device.canonical wire) = node
  /-- Nobody is added to the wires of the device. -/
  inside : ∀ wire, device.InRange (.wire wire) →
    ∀ other ∈ device.members (device.canonical wire), device.InRange (.wire other)

/-- **Nodes part the wires of a device.** -/
theorem parted (device : Device) : device.Parted where
  final := device.canonical_canonical
  joined wire other := by
    constructor
    · exact canonical_of_mem_members
    · intro same
      rw [← same]
      exact device.mem_members_canonical other
  once wire := List.count_eq_one_of_mem (device.nodup_members _) (device.mem_members_canonical wire)
  alone wire lone := ⟨canonical_of_lone lone, members_of_lone lone⟩
  nodes node there wire member := by
    cases node with
    | nil => cases member
    | cons head rest =>
        rw [canonical_of_node there member, members_of_node there]
        exact ⟨rfl, rfl⟩
  inside wire known other member := inRange_of_mem_members (inRange_canonical known) member

end Device

/-- The second wire of the node goes by the name of the first. -/
example : RangeSample.device.canonical ⟨1, 1⟩ = ⟨0, 1⟩ ∧
    RangeSample.device.members ⟨0, 1⟩ = [⟨0, 1⟩, ⟨1, 1⟩] := by decide +kernel

end UltraFabric
