/-
# UltraFabric.Proofs.Cascades — a link is found exactly where there is one

Whom a multiplier feeds is searched for on three levels: among the wires of its cascade outputs, among
the wires that one of these reaches, and among the pins on such a wire.  Each search stops at its first
find, so a wire on which nothing suits must not end the search that it belongs to.

What is looked for needs no search.  A bel gives its result on a wire (`GivesOn`), the wire is the other
one or a single pip away from it (`Reaches`), and another multiplier takes a result from there
(`TakesFrom`); `Feeds` puts the three together.  Wires stand for their nodes on both sides, so a node,
a pip, or a pip between two nodes makes a link.

* `cascadeInputOn?_isSome_iff`, `cascadeNeighbour?_isSome_iff`: level by level, the search finds
  something exactly when there is something;
* `feeds_of_cascadeNeighbour?`: what it finds is fed, and is not the multiplier itself;
* `linked_exactly`: the table has an entry for those bels that feed another one, and for no others.
-/
import UltraFabric.Cascade
import UltraFabric.Proofs.Indexes

namespace UltraFabric

set_option autoImplicit false

namespace Device

/-- A multiplier passes its result on at a wire. -/
def GivesOn (device : Device) (bel : BelId) (wire : WireId) : Prop :=
  ∃ info, device.bel? bel = some info ∧ info.type = "DSP" ∧
    ∃ own ∈ info.pins, Primitive.isCascadeOutput own.name ∧ device.pinWire? bel own.name = some wire

/-- A wire is another one, or a single pip leads there. -/
def Reaches (device : Device) (wire reached : WireId) : Prop :=
  reached = wire ∨
    ∃ pip arc, device.arc? pip = some arc ∧ arc.source = wire ∧ arc.target = reached

/-- A multiplier takes a result from a wire. -/
def TakesFrom (device : Device) (bel : BelId) (wire : WireId) : Prop :=
  ∃ info, device.bel? bel = some info ∧ info.type = "DSP" ∧
    ∃ own ∈ info.pins, Primitive.isCascadeInput own.name ∧
      device.canonical ⟨bel.tile, own.wire⟩ = wire

/-- A multiplier passes its result on to another one. -/
def Feeds (device : Device) (bel next : BelId) : Prop :=
  next ≠ bel ∧ ∃ wire reached, device.GivesOn bel wire ∧ device.Reaches wire reached ∧
    device.TakesFrom next reached

variable {device : Device} {bel next : BelId} {wire reached : WireId} {pin : Name} {info : BelInfo}

/-! ### Each level of the search -/

theorem isMultiplier_iff :
    device.isMultiplier bel = true ↔ ∃ info, device.bel? bel = some info ∧ info.type = "DSP" := by
  unfold isMultiplier
  cases device.bel? bel with
  | none => simp
  | some info => simp

/-- The pins on a wire are those that their bels have there. -/
theorem mem_pinsOn_iff : (bel, pin) ∈ device.pinsOn wire ↔
    ∃ info, device.bel? bel = some info ∧
      ∃ own ∈ info.pins, own.name = pin ∧ device.canonical ⟨bel.tile, own.wire⟩ = wire := by
  rw [← List.count_pos_iff, count_pinsOn, pinCount]
  cases device.bel? bel with
  | none => simp
  | some info => simp [List.countP_pos_iff]

theorem mem_cascadeOutputs_iff (found : device.bel? bel = some info) (multiplier : info.type = "DSP") :
    wire ∈ device.cascadeOutputs bel info ↔ device.GivesOn bel wire := by
  simp only [cascadeOutputs, GivesOn, found, Option.some.injEq, exists_eq_left', multiplier,
    List.mem_filterMap, List.mem_filter, true_and, and_assoc]

/-- The wires that are asked for their pins are those that are reached. -/
theorem mem_reached_iff :
    reached ∈ wire :: (device.leaving wire).map Arc.target ↔ device.Reaches wire reached := by
  rw [List.mem_cons, List.mem_map]
  refine or_congr_right ?_
  constructor
  · rintro ⟨arc, leaves, rfl⟩
    obtain ⟨there, starts⟩ := mem_leaving_iff.1 leaves
    exact ⟨arc.pip, arc, mem_arcs_iff.1 there, starts, rfl⟩
  · rintro ⟨pip, arc, found, starts, rfl⟩
    have own := pip_of_arc? found
    have there : arc ∈ device.arcs := by
      rw [mem_arcs_iff, own]
      exact found
    exact ⟨arc, mem_leaving_iff.2 ⟨there, starts⟩, rfl⟩

/-- A pin on a wire suits when its bel is another multiplier that takes a result there. -/
theorem exists_suitable_iff :
    (∃ pin, (next, pin) ∈ device.pinsOn wire ∧
        (next ≠ bel && device.isMultiplier next && Primitive.isCascadeInput pin) = true) ↔
      next ≠ bel ∧ device.TakesFrom next wire := by
  simp only [Bool.and_eq_true, decide_eq_true_iff, isMultiplier_iff, mem_pinsOn_iff]
  constructor
  · rintro ⟨pin, ⟨info, found, own, member, rfl, on⟩, ⟨other, own', found', multiplier⟩, input⟩
    cases found.symm.trans found'
    exact ⟨other, info, found, multiplier, own, member, input, on⟩
  · rintro ⟨other, info, found, multiplier, own, member, input, on⟩
    exact ⟨own.name, ⟨info, found, own, member, rfl, on⟩, ⟨other, info, found, multiplier⟩, input⟩

theorem takesFrom_of_cascadeInputOn? (found : device.cascadeInputOn? bel wire = some next) :
    next ≠ bel ∧ device.TakesFrom next wire := by
  obtain ⟨⟨other, pin⟩, first, rfl⟩ := Option.map_eq_some_iff.1 found
  have suits := List.find?_some first
  exact exists_suitable_iff.1 ⟨pin, List.mem_of_find?_eq_some first, suits⟩

/-- A multiplier is found on a wire exactly when another one takes a result there. -/
theorem cascadeInputOn?_isSome_iff : (device.cascadeInputOn? bel wire).isSome ↔
    ∃ next, next ≠ bel ∧ device.TakesFrom next wire := by
  rw [cascadeInputOn?, Option.isSome_map, List.find?_isSome]
  constructor
  · rintro ⟨⟨next, pin⟩, there, suits⟩
    exact ⟨next, exists_suitable_iff.1 ⟨pin, there, suits⟩⟩
  · rintro ⟨next, takes⟩
    obtain ⟨pin, there, suits⟩ := exists_suitable_iff.2 takes
    exact ⟨(next, pin), there, suits⟩

/-! ### The whole search -/

section Neighbour

variable (found : device.bel? bel = some info) (multiplier : info.type = "DSP")
include found multiplier

theorem feeds_of_cascadeNeighbour? (neighbour : device.cascadeNeighbour? bel info = some next) :
    device.Feeds bel next := by
  obtain ⟨wire, output, inner⟩ := List.exists_of_findSome?_eq_some neighbour
  obtain ⟨reached, near, innermost⟩ := List.exists_of_findSome?_eq_some inner
  obtain ⟨other, takes⟩ := takesFrom_of_cascadeInputOn? innermost
  exact ⟨other, wire, reached, (mem_cascadeOutputs_iff found multiplier).1 output,
    mem_reached_iff.1 near, takes⟩

/-- **The search finds a neighbour exactly when the multiplier feeds one.** -/
theorem cascadeNeighbour?_isSome_iff :
    (device.cascadeNeighbour? bel info).isSome ↔ ∃ next, device.Feeds bel next := by
  constructor
  · intro finds
    obtain ⟨next, neighbour⟩ := Option.isSome_iff_exists.1 finds
    exact ⟨next, feeds_of_cascadeNeighbour? found multiplier neighbour⟩
  · rintro ⟨next, other, wire, reached, gives, reaches, takes⟩
    rw [cascadeNeighbour?, List.findSome?_isSome_iff]
    refine ⟨wire, (mem_cascadeOutputs_iff found multiplier).2 gives, ?_⟩
    rw [List.findSome?_isSome_iff]
    exact ⟨reached, mem_reached_iff.2 reaches, cascadeInputOn?_isSome_iff.2 ⟨next, other, takes⟩⟩

end Neighbour

/-! ### The table -/

/-- An entry of the device puts a link of a bel into the table. -/
def Links (device : Device) (bel : BelId) (entry : BelId × BelInfo) : Prop :=
  entry.1 = bel ∧ (device.cascadeNeighbour? entry.1 entry.2).isSome

theorem getElem?_of_not_links {links : Std.ExtTreeMap BelId BelId} {entry : BelId × BelInfo}
    (elsewhere : ¬ device.Links bel entry) :
    (match device.cascadeNeighbour? entry.1 entry.2 with
      | some next => links.insert entry.1 next
      | none => links)[bel]? = links[bel]? := by
  cases neighbour : device.cascadeNeighbour? entry.1 entry.2 with
  | none => rfl
  | some near =>
      simp only [Links, neighbour, Option.isSome_some, and_true] at elsewhere
      rw [Std.ExtTreeMap.getElem?_insert, if_neg]
      rwa [Std.LawfulEqCmp.compare_eq_iff_eq]

theorem pairwise_links (device : Device) (bel : BelId) :
    (device.bels.filter (·.2.type = "DSP")).Pairwise fun entry other =>
      device.Links bel entry → ¬ device.Links bel other := by
  have distinct : (device.bels.map Prod.fst).Nodup := Chip.nodup_enumerate _ _ _
  refine ((List.pairwise_map.1 distinct).filter _).imp ?_
  intro entry other different here there
  exact different (here.1.trans there.1.symm)

theorem getElem?_cascade_of_neighbour (found : device.bel? bel = some info)
    (multiplier : info.type = "DSP") (neighbour : device.cascadeNeighbour? bel info = some next) :
    device.cascade[bel]? = some next := by
  have listed : (bel, info) ∈ device.bels.filter (·.2.type = "DSP") :=
    List.mem_filter.2 ⟨Chip.mem_enumerate_iff.2 found, decide_eq_true multiplier⟩
  have links : device.Links bel (bel, info) := by
    rw [Links, neighbour]
    exact ⟨rfl, rfl⟩
  refine Entries.getElem?_foldl_of_touched (fun _ _ => getElem?_of_not_links)
    (device.pairwise_links bel) listed links (fun before => ?_) ∅
  simp only [neighbour, Std.ExtTreeMap.getElem?_insert_self]

/-- **The table is the search**, for every multiplier. -/
theorem cascade_eq_some_iff : device.cascade[bel]? = some next ↔
    ∃ info, device.bel? bel = some info ∧ info.type = "DSP" ∧
      device.cascadeNeighbour? bel info = some next := by
  constructor
  · intro linked
    -- A bel that no entry puts a link for is not in the table.
    by_cases entered : ∃ entry ∈ device.bels.filter (·.2.type = "DSP"), device.Links bel entry
    · obtain ⟨⟨_, info⟩, listed, rfl, finds⟩ := entered
      obtain ⟨there, multiplier⟩ := List.mem_filter.1 listed
      have found := Chip.mem_enumerate_iff.1 there
      obtain ⟨near, neighbour⟩ := Option.isSome_iff_exists.1 finds
      have near := getElem?_cascade_of_neighbour found (of_decide_eq_true multiplier) neighbour
      cases linked.symm.trans near
      exact ⟨info, found, of_decide_eq_true multiplier, neighbour⟩
    · have absent : device.cascade[bel]? = (∅ : Std.ExtTreeMap BelId BelId)[bel]? :=
        Entries.getElem?_foldl_of_untouched (fun _ _ => getElem?_of_not_links)
          (fun entry listed links => entered ⟨entry, listed, links⟩) ∅
      rw [absent] at linked
      simp at linked
  · rintro ⟨info, found, multiplier, neighbour⟩
    exact getElem?_cascade_of_neighbour found multiplier neighbour

/-- The links of a device: whoever feeds another multiplier has one, and it leads to such another. -/
structure LinkedExactly (device : Device) : Prop where
  linked_iff : ∀ bel : BelId,
    (∃ next, device.cascade[bel]? = some next) ↔ ∃ next, device.Feeds bel next
  feeds : ∀ bel next : BelId, device.cascade[bel]? = some next → device.Feeds bel next
  other : ∀ bel next : BelId, device.cascade[bel]? = some next → next ≠ bel

/-- **The table has a link exactly where there is one.** -/
theorem linked_exactly (device : Device) : device.LinkedExactly where
  linked_iff bel := by
    constructor
    · rintro ⟨next, linked⟩
      obtain ⟨info, found, multiplier, neighbour⟩ := cascade_eq_some_iff.1 linked
      exact ⟨next, feeds_of_cascadeNeighbour? found multiplier neighbour⟩
    · rintro ⟨near, feeds⟩
      have ⟨_, _, _, ⟨info, found, multiplier, _⟩, _⟩ := feeds
      obtain ⟨next, neighbour⟩ := Option.isSome_iff_exists.1
        ((cascadeNeighbour?_isSome_iff found multiplier).2 ⟨near, feeds⟩)
      exact ⟨next, cascade_eq_some_iff.2 ⟨info, found, multiplier, neighbour⟩⟩
  feeds bel next linked := by
    obtain ⟨info, found, multiplier, neighbour⟩ := cascade_eq_some_iff.1 linked
    exact feeds_of_cascadeNeighbour? found multiplier neighbour
  other bel next linked := by
    obtain ⟨info, found, multiplier, neighbour⟩ := cascade_eq_some_iff.1 linked
    exact (feeds_of_cascadeNeighbour? found multiplier neighbour).1

end Device

end UltraFabric
