/-
# UltraFabric.Proofs.Lobes — the lobes part the clock buffers of a device

The buffers of a device are sorted by tile and height and then handed out to the lists of their lobes, one
by one at the end of each list.  So the list of a lobe is the part of the sorted list that lies in the
lobe, unless some buffer lies in a tile without a lobe; the first such buffer is reported (`byLobe_cases`).

Two facts about devices give the rest.  Ids are enumerated once, so every buffer is handed out once.  And
no two bels share a location, so two buffers of one tile differ in height, and the order is strict
(`pairwise_ofDevice`).

* `parts_of_held`: such lists hold the buffers of the device, each of them once;
* `parted_by_lobe`: when they come about.
-/
import UltraFabric.Proofs.Buffers
import UltraFabric.Proofs.Indexes

namespace UltraFabric

set_option autoImplicit false

namespace Device

variable {device : Device} {bel : BelId}

/-- The lobe that a tile lies in, if it lies in one. -/
def lobeOf? (device : Device) (tile : Nat) : Option Nat :=
  (device.chip.tiles[tile]?).bind fun tile => tile.detail.bind TileDetail.lobe

def isClockBuffer (device : Device) (bel : BelId) : Bool :=
  match device.bel? bel with
  | some info => info.type = "GCK"
  | none => false

theorem lobe?_ofChip (device : Device) (tile : Nat) :
    (TileNames.ofChip device.chip).lobe? tile = device.lobeOf? tile := by
  simp only [TileNames.lobe?, TileNames.ofChip, lobeOf?, Array.getElem?_map]
  cases device.chip.tiles[tile]? <;> rfl

theorem isClockBuffer_iff : device.isClockBuffer bel = true ↔
    ∃ info, device.bel? bel = some info ∧ info.type = "GCK" := by
  unfold isClockBuffer
  cases device.bel? bel <;> simp

end Device

namespace ClockBuffer

variable {device : Device}

/-- The buffer of a bel, with its own sources, or with all of them. -/
def ofEntry (entry : BelId × BelInfo) : ClockBuffer :=
  ⟨entry.1, entry.2.clockSources.getD ClockSources.any⟩

/-- A buffer of the device, with the sources that the device gives it. -/
def IsOf (device : Device) (buffer : ClockBuffer) : Prop :=
  ∃ info, device.bel? buffer.bel = some info ∧ info.type = "GCK" ∧
    buffer.sources = info.clockSources.getD ClockSources.any

/-! ### The sorted list -/

/-- By tile, then by height. -/
def Below (entry other : BelId × BelInfo) : Prop :=
  entry.1.tile < other.1.tile ∨ entry.1.tile = other.1.tile ∧ entry.2.z < other.2.z

theorem mem_ofDevice_iff {bel : BelId} {info : BelInfo} :
    (bel, info) ∈ ofDevice device ↔ device.bel? bel = some info ∧ info.type = "GCK" := by
  rw [ofDevice, List.mem_mergeSort, List.mem_filter, decide_eq_true_iff]
  exact and_congr_left' Chip.mem_enumerate_iff

theorem nodup_ofDevice (device : Device) : ((ofDevice device).map Prod.fst).Nodup := by
  have once : (device.bels.map Prod.fst).Nodup := Chip.nodup_enumerate _ _ _
  have sorted := (List.mergeSort_perm (device.bels.filter (·.2.type = "GCK")) fun a b =>
    (compare a.1.tile b.1.tile).then (compare a.2.z b.2.z) |>.isLE).map Prod.fst
  exact sorted.nodup_iff.2 (once.sublist (List.filter_sublist.map Prod.fst))

/-- The order in which buffers are sorted. -/
theorem isLE_iff {entry other : BelId × BelInfo} :
    ((compare entry.1.tile other.1.tile).then (compare entry.2.z other.2.z)).isLE = true ↔
      entry.1.tile < other.1.tile ∨ entry.1.tile = other.1.tile ∧ entry.2.z ≤ other.2.z := by
  rw [Ordering.isLE_then_iff_or, Nat.compare_eq_lt, Nat.compare_eq_eq, Int.isLE_compare]

/-- **The order of the buffers is strict**, because no two of one tile have the same height. -/
theorem pairwise_ofDevice (device : Device) : (ofDevice device).Pairwise Below := by
  have ascending : (ofDevice device).Pairwise fun a b =>
      ((compare a.1.tile b.1.tile).then (compare a.2.z b.2.z)).isLE = true := by
    refine List.pairwise_mergeSort (fun a b c first second => ?_) (fun a b => ?_) _
    · rw [isLE_iff] at first second ⊢
      omega
    · rw [Bool.or_eq_true, isLE_iff, isLE_iff]
      omega
  have apart : (ofDevice device).Pairwise fun entry other =>
      device.chip.locationOf entry.1 entry.2 ≠ device.chip.locationOf other.1 other.2 := by
    have filtered := device.pairwise_locations.sublist
      (List.filter_sublist (p := fun entry : BelId × BelInfo => entry.2.type = "GCK"))
    exact (List.mergeSort_perm _ _).symm.pairwise filtered fun different => Ne.symm different
  refine (ascending.and apart).imp fun {entry other} ⟨ordered, different⟩ => ?_
  rcases isLE_iff.1 ordered with tile | ⟨tile, height⟩
  · exact Or.inl tile
  · have other_height : entry.2.z ≠ other.2.z := fun same => different (by
      rw [Chip.locationOf, Chip.locationOf, tile, same])
    exact Or.inr ⟨tile, by omega⟩

theorem Below.asymm {entry other : BelId × BelInfo} (below : Below entry other) :
    ¬ Below other entry := by
  unfold Below at *
  omega

/-- What comes below an entry of a sorted list stands before it. -/
theorem mem_before_of_below {before rest : List (BelId × BelInfo)} {entry other : BelId × BelInfo}
    (sorted : (before ++ entry :: rest).Pairwise Below) (member : other ∈ before ++ entry :: rest)
    (below : Below other entry) : other ∈ before := by
  obtain ⟨_, later, _⟩ := List.pairwise_append.1 sorted
  rcases List.mem_append.1 member with early | late
  · exact early
  · rcases List.mem_cons.1 late with rfl | late
    · exact absurd below below.asymm
    · exact absurd below ((List.pairwise_cons.1 later).1 other late).asymm

/-! ### Handing the buffers out -/

/-- A list of buffers with some more at its end; no list is begun for none. -/
def lengthen (known : Option (List ClockBuffer)) : List ClockBuffer → Option (List ClockBuffer)
  | [] => known
  | more => some (known.getD [] ++ more)

theorem lengthen_lengthen (known : Option (List ClockBuffer)) (first second : List ClockBuffer) :
    lengthen (lengthen known first) second = lengthen known (first ++ second) := by
  cases first with
  | nil => rfl
  | cons buffer rest =>
      cases second with
      | nil => simp [lengthen]
      | cons other more => simp [lengthen]

theorem lengthen_none_eq_some_iff {buffers given : List ClockBuffer} :
    lengthen none given = some buffers ↔ buffers = given ∧ given ≠ [] := by
  cases given with
  | nil => simp [lengthen]
  | cons buffer rest => simp [lengthen, eq_comm]

/-- The buffers among some entries that lie in a lobe. -/
def inLobe (tiles : TileNames) (lobe : Nat) (entries : List (BelId × BelInfo)) : List ClockBuffer :=
  (entries.filter fun entry => tiles.lobe? entry.1.tile = some lobe).map ofEntry

/-- **What becomes of some entries.**  Every lobe gets those that lie in it, in their order, or the first
one that lies nowhere is reported. -/
theorem addToLobes_cases (tiles : TileNames) (entries : List (BelId × BelInfo)) :
    ∀ lobes : Std.ExtTreeMap Nat (List ClockBuffer),
      (∃ after, addToLobes tiles lobes entries = .ok after ∧
        (∀ entry ∈ entries, tiles.lobe? entry.1.tile ≠ none) ∧
        ∀ lobe : Nat, after[lobe]? = lengthen lobes[lobe]? (inLobe tiles lobe entries)) ∨
      ∃ before bel info rest, entries = before ++ (bel, info) :: rest ∧
        (∀ entry ∈ before, tiles.lobe? entry.1.tile ≠ none) ∧ tiles.lobe? bel.tile = none ∧
        addToLobes tiles lobes entries = .error ⟨bel.tile, info.name⟩ := by
  induction entries with
  | nil =>
      intro lobes
      exact Or.inl ⟨lobes, rfl, by simp, fun _ => rfl⟩
  | cons entry rest ih =>
      obtain ⟨bel, info⟩ := entry
      intro lobes
      cases here : tiles.lobe? bel.tile with
      | none => exact Or.inr ⟨[], bel, info, rest, rfl, by simp, here, by simp only [addToLobes, here]⟩
      | some own =>
          have somewhere : tiles.lobe? bel.tile ≠ none := by simp [here]
          simp only [addToLobes, here]
          rcases ih (lobes.insert own (lobes.getD own [] ++ [ofEntry (bel, info)])) with
            ⟨after, added, lobed, held⟩ | ⟨before, bel', info', rest', rfl, lobed, nowhere, refused⟩
          · refine Or.inl ⟨after, added, List.forall_mem_cons.2 ⟨somewhere, lobed⟩, fun lobe => ?_⟩
            rw [held lobe, Std.ExtTreeMap.getElem?_insert]
            by_cases same : own = lobe
            · subst same
              have first : inLobe tiles own ((bel, info) :: rest) =
                  [ofEntry (bel, info)] ++ inLobe tiles own rest := by
                simp [inLobe, here]
              rw [first, ← lengthen_lengthen]
              simp [lengthen, Std.ExtTreeMap.getD_eq_getD_getElem?]
            · simp [inLobe, here, same]
          · exact Or.inr ⟨(bel, info) :: before, bel', info', rest', rfl,
              List.forall_mem_cons.2 ⟨somewhere, lobed⟩, nowhere, refused⟩

/-! ### The buffers of a device -/

/-- **What becomes of the buffers of a device.**  Every lobe gets its own, or the first one that lies
nowhere is reported. -/
theorem byLobe_cases (device : Device) :
    (∃ lobes, byLobe device (TileNames.ofChip device.chip) = .ok lobes ∧
      (∀ bel, device.isClockBuffer bel = true → device.lobeOf? bel.tile ≠ none) ∧
      ∀ lobe : Nat, lobes[lobe]? =
        lengthen none (inLobe (TileNames.ofChip device.chip) lobe (ofDevice device))) ∨
    ∃ bel info, device.bel? bel = some info ∧ info.type = "GCK" ∧ device.lobeOf? bel.tile = none ∧
      (∀ other info', device.bel? other = some info' → info'.type = "GCK" →
        Below (other, info') (bel, info) → device.lobeOf? other.tile ≠ none) ∧
      byLobe device (TileNames.ofChip device.chip) = .error ⟨bel.tile, info.name⟩ := by
  rcases addToLobes_cases (TileNames.ofChip device.chip) (ofDevice device) ∅ with
    ⟨lobes, added, lobed, held⟩ | ⟨before, bel, info, rest, split, lobed, nowhere, refused⟩
  · refine Or.inl ⟨lobes, added, fun bel buffer => ?_, fun lobe => ?_⟩
    · obtain ⟨info, found, type⟩ := Device.isClockBuffer_iff.1 buffer
      have somewhere := lobed (bel, info) (mem_ofDevice_iff.2 ⟨found, type⟩)
      rwa [Device.lobe?_ofChip] at somewhere
    · rw [held lobe]
      simp
  · have there : (bel, info) ∈ ofDevice device := by simp [split]
    obtain ⟨found, type⟩ := mem_ofDevice_iff.1 there
    rw [Device.lobe?_ofChip] at nowhere
    refine Or.inr ⟨bel, info, found, type, nowhere, fun other info' found' type' below => ?_, refused⟩
    have sorted := pairwise_ofDevice device
    have listed := mem_ofDevice_iff.2 ⟨found', type'⟩
    rw [split] at sorted listed
    have somewhere := lobed _ (mem_before_of_below sorted listed below)
    rwa [Device.lobe?_ofChip] at somewhere

/-- The lists hold the buffers of a device, parted by the lobes of their tiles. -/
structure Parts (device : Device) (lobes : Std.ExtTreeMap Nat (List ClockBuffer)) : Prop where
  listed : ∀ (lobe : Nat) (buffer : ClockBuffer), buffer ∈ lobes.getD lobe [] ↔
    buffer.IsOf device ∧ device.lobeOf? buffer.bel.tile = some lobe
  once : ∀ bel, (lobes.values.flatten.map ClockBuffer.bel).count bel =
    if device.isClockBuffer bel = true then 1 else 0
  filled : ∀ (lobe : Nat) (buffers : List ClockBuffer), lobes[lobe]? = some buffers → buffers ≠ []
  ascending : ∀ (lobe : Nat) (buffers : List ClockBuffer), lobes[lobe]? = some buffers →
    buffers.Pairwise fun buffer other => ∃ info info', device.bel? buffer.bel = some info ∧
      device.bel? other.bel = some info' ∧ Below (buffer.bel, info) (other.bel, info')

theorem mem_inLobe_iff {lobe : Nat} {buffer : ClockBuffer} :
    buffer ∈ inLobe (TileNames.ofChip device.chip) lobe (ofDevice device) ↔
      buffer.IsOf device ∧ device.lobeOf? buffer.bel.tile = some lobe := by
  simp only [inLobe, List.mem_map, List.mem_filter, decide_eq_true_iff, Device.lobe?_ofChip]
  constructor
  · rintro ⟨⟨bel, info⟩, ⟨there, lobed⟩, rfl⟩
    obtain ⟨found, type⟩ := mem_ofDevice_iff.1 there
    exact ⟨⟨info, found, type, rfl⟩, lobed⟩
  · rintro ⟨⟨info, found, type, sources⟩, lobed⟩
    refine ⟨(buffer.bel, info), ⟨mem_ofDevice_iff.2 ⟨found, type⟩, lobed⟩, ?_⟩
    rw [ofEntry, ← sources]

theorem map_bel_inLobe (tiles : TileNames) (lobe : Nat) (entries : List (BelId × BelInfo)) :
    (inLobe tiles lobe entries).map ClockBuffer.bel =
      (entries.filter fun entry => tiles.lobe? entry.1.tile = some lobe).map Prod.fst := by
  rw [inLobe, List.map_map]
  rfl

section Parting

variable {lobes : Std.ExtTreeMap Nat (List ClockBuffer)}
  (lobed : ∀ bel, device.isClockBuffer bel = true → device.lobeOf? bel.tile ≠ none)
  (held : ∀ lobe : Nat, lobes[lobe]? =
    lengthen none (inLobe (TileNames.ofChip device.chip) lobe (ofDevice device)))

include held

theorem mem_flatten_values_iff {buffer : ClockBuffer} : buffer ∈ lobes.values.flatten ↔
    ∃ lobe : Nat, buffer.IsOf device ∧ device.lobeOf? buffer.bel.tile = some lobe := by
  simp only [List.mem_flatten, Entries.mem_values_iff, held, lengthen_none_eq_some_iff]
  constructor
  · rintro ⟨_, ⟨lobe, rfl, _⟩, member⟩
    exact ⟨lobe, mem_inLobe_iff.1 member⟩
  · rintro ⟨lobe, own⟩
    have member := mem_inLobe_iff.2 own
    exact ⟨_, ⟨lobe, rfl, List.ne_nil_of_mem member⟩, member⟩

/-- No buffer is handed out twice: not within a lobe, and a tile lies in one lobe only. -/
theorem nodup_flatten_values : (lobes.values.flatten.map ClockBuffer.bel).Nodup := by
  have entry : ∀ {lobe : Nat} {buffers : List ClockBuffer}, (lobe, buffers) ∈ lobes.toList →
      buffers = inLobe (TileNames.ofChip device.chip) lobe (ofDevice device) := by
    intro lobe buffers member
    have found := Std.ExtTreeMap.mem_toList_iff_getElem?_eq_some.1 member
    exact (lengthen_none_eq_some_iff.1 ((held lobe).symm.trans found)).1
  rw [Entries.values_eq_map_toList, ← List.flatMap_def, List.map_flatMap, List.nodup_flatMap]
  refine ⟨?_, lobes.distinct_keys_toList.imp_of_mem ?_⟩
  · rintro ⟨lobe, buffers⟩ member
    rw [entry member, map_bel_inLobe]
    exact (nodup_ofDevice device).sublist (List.filter_sublist.map Prod.fst)
  · rintro ⟨lobe, buffers⟩ ⟨lobe', buffers'⟩ member member' different bel here there
    cases entry member
    cases entry member'
    obtain ⟨buffer, in_lobe, rfl⟩ := List.mem_map.1 here
    obtain ⟨buffer', in_lobe', same⟩ := List.mem_map.1 there
    have first := (mem_inLobe_iff.1 in_lobe).2
    have second := (mem_inLobe_iff.1 in_lobe').2
    rw [same, first] at second
    cases second
    exact different Std.ReflCmp.compare_self

include lobed

theorem parts_of_held : Parts device lobes := by
  refine ⟨fun lobe buffer => ?_, fun bel => ?_, fun lobe buffers found => ?_,
    fun lobe buffers found => ?_⟩
  · rw [Std.ExtTreeMap.getD_eq_getD_getElem?, held, ← mem_inLobe_iff]
    cases inLobe (TileNames.ofChip device.chip) lobe (ofDevice device) with
    | nil => rfl
    | cons buffer rest => simp [lengthen]
  · have listed : bel ∈ lobes.values.flatten.map ClockBuffer.bel ↔
        device.isClockBuffer bel = true := by
      rw [List.mem_map, Device.isClockBuffer_iff]
      constructor
      · rintro ⟨buffer, member, rfl⟩
        obtain ⟨_, ⟨info, found, type, _⟩, _⟩ := (mem_flatten_values_iff held).1 member
        exact ⟨info, found, type⟩
      · rintro ⟨info, found, type⟩
        have somewhere := lobed bel (Device.isClockBuffer_iff.2 ⟨info, found, type⟩)
        obtain ⟨lobe, own⟩ := Option.ne_none_iff_exists'.1 somewhere
        exact ⟨ofEntry (bel, info),
          (mem_flatten_values_iff held).2 ⟨lobe, ⟨info, found, type, rfl⟩, own⟩, rfl⟩
    rw [(nodup_flatten_values held).count]
    simp only [listed]
  · obtain ⟨rfl, some⟩ := lengthen_none_eq_some_iff.1 ((held lobe).symm.trans found)
    exact some
  · obtain ⟨rfl, _⟩ := lengthen_none_eq_some_iff.1 ((held lobe).symm.trans found)
    rw [inLobe, List.pairwise_map]
    refine ((pairwise_ofDevice device).filter _).imp_of_mem fun {entry other} here there below => ?_
    exact ⟨entry.2, other.2, (mem_ofDevice_iff.1 (List.mem_filter.1 here).1).1,
      (mem_ofDevice_iff.1 (List.mem_filter.1 there).1).1, below⟩

end Parting

/-! ### The whole -/

/-- The clock buffers of a device are parted by the lobes, or the first one without a lobe is reported. -/
structure PartedByLobe (device : Device) : Prop where
  refused : (∃ missing, byLobe device (TileNames.ofChip device.chip) = .error missing) ↔
    ∃ bel, device.isClockBuffer bel = true ∧ device.lobeOf? bel.tile = none
  reported : ∀ missing, byLobe device (TileNames.ofChip device.chip) = .error missing →
    ∃ bel info, device.bel? bel = some info ∧ info.type = "GCK" ∧ device.lobeOf? bel.tile = none ∧
      (∀ other info', device.bel? other = some info' → info'.type = "GCK" →
        Below (other, info') (bel, info) → device.lobeOf? other.tile ≠ none) ∧
      missing = ⟨bel.tile, info.name⟩
  parts : ∀ lobes, byLobe device (TileNames.ofChip device.chip) = .ok lobes → Parts device lobes

/-- **The lobes part the clock buffers.**  They are refused exactly when one lies in a tile without a lobe.
Otherwise each is once in the list of its lobe and in no other, with its own sources; every list is one of
buffers, at least one, that stand strictly by tile and height. -/
theorem parted_by_lobe (device : Device) : PartedByLobe device := by
  rcases byLobe_cases device with
    ⟨lobes, built, lobed, held⟩ | ⟨bel, info, found, type, nowhere, first, refused⟩
  · refine ⟨?_, fun missing refused => ?_, fun lobes' built' => ?_⟩
    · constructor
      · rintro ⟨missing, refused⟩
        rw [built] at refused
        cases refused
      · rintro ⟨bel, buffer, nowhere⟩
        exact absurd nowhere (lobed bel buffer)
    · rw [built] at refused
      cases refused
    · cases built.symm.trans built'
      exact parts_of_held lobed held
  · have buffer := Device.isClockBuffer_iff.2 ⟨info, found, type⟩
    refine ⟨⟨fun _ => ⟨bel, buffer, nowhere⟩, fun _ => ⟨_, refused⟩⟩, fun missing refused' => ?_,
      fun lobes built => ?_⟩
    · cases refused.symm.trans refused'
      exact ⟨bel, info, found, type, nowhere, first, rfl⟩
    · rw [refused] at built
      cases built

end ClockBuffer

end UltraFabric
