/-
# UltraFabric.Proofs.Buffers — clock buffers that are there, and can be chosen from

The buffers of the lobes are bels of the device (`isBel_of_byLobe`), so their distances can be
measured and a choice among them never ends in a fault (`choose?_spec`).  What a request chooses from
are the buffers that are not used and accept it (`mem_free_iff`).
-/
import UltraFabric.Clock.Lobe
import UltraFabric.Proofs.Inventory

namespace UltraFabric

set_option autoImplicit false

namespace ClockBuffer

/-- Lists of buffers that are all on bels of the device. -/
def OnDevice (device : Device) (lobes : Std.ExtTreeMap Nat (List ClockBuffer)) : Prop :=
  ∀ (lobe : Nat) (buffers : List ClockBuffer), lobes[lobe]? = some buffers →
    ∀ buffer ∈ buffers, device.isBel buffer.bel = true

theorem onDevice_addToLobes {device : Device} {tiles : TileNames}
    (entries : List (BelId × BelInfo)) :
    ∀ lobes after : Std.ExtTreeMap Nat (List ClockBuffer), OnDevice device lobes →
      (∀ entry ∈ entries, device.isBel entry.1 = true) →
      addToLobes tiles lobes entries = .ok after → OnDevice device after := by
  induction entries with
  | nil =>
      intro lobes after sound _ added
      cases added
      exact sound
  | cons entry rest ih =>
      obtain ⟨bel, info⟩ := entry
      intro lobes after sound there added
      simp only [addToLobes] at added
      split at added
      · cases added
      rename_i lobe _
      refine ih _ after ?_ (fun other member => there other (List.mem_cons_of_mem _ member)) added
      intro other buffers found buffer member
      rw [Std.ExtTreeMap.getElem?_insert] at found
      split at found
      · cases found
        rcases List.mem_append.1 member with old | new
        · cases known : lobes[lobe]? with
          | none => simp [Std.ExtTreeMap.getD_eq_getD_getElem?, known] at old
          | some own =>
              simp only [Std.ExtTreeMap.getD_eq_getD_getElem?, known, Option.getD_some] at old
              exact sound lobe own known buffer old
        · cases List.mem_singleton.1 new
          exact there _ List.mem_cons_self
      · exact sound other buffers found buffer member

/-- **The buffers of the lobes are bels of the device.** -/
theorem isBel_of_byLobe {device : Device} {tiles : TileNames}
    {lobes : Std.ExtTreeMap Nat (List ClockBuffer)} (built : byLobe device tiles = .ok lobes) :
    OnDevice device lobes := by
  refine onDevice_addToLobes (ofDevice device) ∅ lobes (fun _ _ found => ?_) ?_ built
  · simp at found
  · intro entry member
    have there := (List.mergeSort_perm _ _).mem_iff.1 member
    exact Device.isBel_of_mem_bels (List.mem_filter.1 there).1

/-! ### Candidates -/

section Candidates

variable {device : Device} {choice : BufferChoice} {buffers : List ClockBuffer}

theorem mem_free_iff {used : List Nat} {tier : DriverTier} {buffer : ClockBuffer} {index : Nat} :
    (buffer, index) ∈ free buffers used tier ↔
      buffers[index]? = some buffer ∧ index ∉ used ∧ buffer.accepts tier = true := by
  rw [free, List.mem_filter, List.mem_zipIdx_iff_getElem?]
  simp

theorem distances_spec (driver : Loc) (candidates : List (ClockBuffer × Nat))
    (there : ∀ candidate ∈ candidates, device.isBel candidate.1.bel = true) :
    ∃ measured, distances device driver candidates = .ok measured ∧
      ∀ entry ∈ measured, ∃ buffer, (buffer, entry.1) ∈ candidates := by
  induction candidates with
  | nil => exact ⟨[], rfl, by simp⟩
  | cons candidate rest ih =>
      obtain ⟨buffer, index⟩ := candidate
      obtain ⟨measured, done, named⟩ :=
        ih fun other member => there other (List.mem_cons_of_mem _ member)
      have here : device.isBel buffer.bel = true := there _ List.mem_cons_self
      obtain ⟨info, found⟩ := Option.isSome_iff_exists.1 here
      have located : locate device buffer.bel = .ok (device.chip.locationOf buffer.bel info) := by
        rw [locate, Device.location?, found]
        rfl
      refine ⟨(index, (device.chip.locationOf buffer.bel info).manhattan driver) :: measured,
        by simp only [distances, located, done], ?_⟩
      intro entry member
      rcases List.mem_cons.1 member with rfl | member
      · exact ⟨buffer, List.mem_cons_self⟩
      · obtain ⟨other, there⟩ := named entry member
        exact ⟨other, List.mem_cons_of_mem _ there⟩

theorem mem_of_leastDistance? (entries : List (Nat × Nat)) :
    ∀ least, leastDistance? entries = some least → least ∈ entries := by
  induction entries with
  | nil =>
      intro least found
      cases found
  | cons entry rest ih =>
      obtain ⟨index, distance⟩ := entry
      intro least found
      simp only [leastDistance?] at found
      split at found
      · cases found
        exact List.mem_cons_self
      · rename_i other best nearest
        split at found
        · cases found
          exact List.mem_cons_self
        · cases found
          exact List.mem_cons_of_mem _ (ih _ nearest)

/-- A request takes one of the candidates, and that can always be decided. -/
theorem choose?_spec {candidates : List (ClockBuffer × Nat)} (choice : BufferChoice)
    (driver : Option Loc)
    (there : ∀ candidate ∈ candidates, device.isBel candidate.1.bel = true) :
    ∃ chosen, choose? device choice candidates driver = .ok chosen ∧
      ∀ index, chosen = some index → ∃ buffer, (buffer, index) ∈ candidates := by
  have first : ∃ chosen, (.ok (candidates.head?.map Prod.snd) : Answer (Option Nat)) = .ok chosen ∧
      ∀ index, chosen = some index → ∃ buffer, (buffer, index) ∈ candidates := by
    refine ⟨_, rfl, fun index chosen => ?_⟩
    obtain ⟨⟨buffer, own⟩, head, rfl⟩ := Option.map_eq_some_iff.1 chosen
    exact ⟨buffer, List.mem_of_mem_head? head⟩
  cases choice with
  | firstFit => exact first
  | nearest =>
      cases driver with
      | none => exact first
      | some location =>
          obtain ⟨measured, done, named⟩ := distances_spec location candidates there
          refine ⟨(leastDistance? measured).map Prod.fst, by simp only [choose?, done],
            fun index chosen => ?_⟩
          obtain ⟨entry, least, rfl⟩ := Option.map_eq_some_iff.1 chosen
          exact named entry (mem_of_leastDistance? measured entry least)

end Candidates

end ClockBuffer

end UltraFabric
