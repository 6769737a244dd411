/-
# UltraFabric.Proofs.Choice — which buffer a request takes

A request takes the nearest of the free buffers that accept it, or the first of them.  Both are one rule
for places in the list of buffers: less distance comes first, and among equal distances the lower place
(`Prefers`).  Where distances do not matter they are all zero.

* `choose?_of_ok`: for either choice, the candidate that is taken has the least distance.
* `choose?_free_spec`: a free place that accepts the request is taken, and it is preferred to all others.
* `choose?_free_none`: no place is taken only when all that accept the request are used.

Distances can be measured only to bels of the device (`Measurable`); otherwise the choice may have no
answer, and nothing is said about it.
-/
import UltraFabric.Proofs.Buffers

namespace UltraFabric

set_option autoImplicit false

namespace ClockBuffer

/-- Distances are measured to bels of the device only. -/
def Measurable (device : Device) (choice : BufferChoice) (buffers : List ClockBuffer) : Prop :=
  choice = .nearest → ∀ buffer ∈ buffers, device.isBel buffer.bel = true

/-- How far a buffer is from a driver, where that matters. -/
def distance (device : Device) (choice : BufferChoice) (driver : Option Loc) (buffer : ClockBuffer) :
    Nat :=
  match choice, driver with
  | .nearest, some driver => ((device.location? buffer.bel).map (·.manhattan driver)).getD 0
  | _, _ => 0

/-- Whether the buffer at some place accepts a tier. -/
def acceptsAt (buffers : List ClockBuffer) (tier : DriverTier) (place : Nat) : Bool :=
  buffers[place]?.any (·.accepts tier)

/-- How far the buffer at some place is from a driver. -/
def distanceAt (device : Device) (choice : BufferChoice) (buffers : List ClockBuffer)
    (driver : Option Loc) (place : Nat) : Nat :=
  (buffers[place]?.map (distance device choice driver)).getD 0

/-- A request with this driver takes the first of two places, if it can have either. -/
def Prefers (device : Device) (choice : BufferChoice) (buffers : List ClockBuffer)
    (driver : Option Loc) (first second : Nat) : Prop :=
  distanceAt device choice buffers driver first < distanceAt device choice buffers driver second ∨
    distanceAt device choice buffers driver first = distanceAt device choice buffers driver second ∧
      first < second

instance {device : Device} {choice : BufferChoice} {buffers : List ClockBuffer}
    {driver : Option Loc} {first second : Nat} :
    Decidable (Prefers device choice buffers driver first second) :=
  inferInstanceAs (Decidable (_ ∨ _ ∧ _))

/-! ### The least distance -/

theorem leastDistance?_eq_none_iff {entries : List (Nat × Nat)} :
    leastDistance? entries = none ↔ entries = [] := by
  cases entries with
  | nil => exact iff_of_true rfl rfl
  | cons first rest =>
      refine iff_of_false (fun nothing => ?_) (List.cons_ne_nil first rest)
      simp only [leastDistance?] at nothing
      split at nothing
      · cases nothing
      · split at nothing <;> cases nothing

/-- The first entry is the least one, or the least of the others is less. -/
theorem leastDistance?_cons {first least : Nat × Nat} {rest : List (Nat × Nat)}
    (found : leastDistance? (first :: rest) = some least) :
    (least = first ∧ ∀ other, leastDistance? rest = some other → first.2 ≤ other.2) ∨
      (leastDistance? rest = some least ∧ least.2 < first.2) := by
  obtain ⟨index, distance⟩ := first
  simp only [leastDistance?] at found
  split at found
  · rename_i nothing
    cases found
    exact Or.inl ⟨rfl, fun other impossible => by cases nothing.symm.trans impossible⟩
  · rename_i other best nearest
    split at found
    · rename_i near
      cases found
      exact Or.inl ⟨rfl, fun another same => by cases nearest.symm.trans same; exact near⟩
    · rename_i far
      cases found
      exact Or.inr ⟨nearest, Nat.lt_of_not_le far⟩

theorem leastDistance?_le (entries : List (Nat × Nat)) :
    ∀ {least}, leastDistance? entries = some least → ∀ entry ∈ entries, least.2 ≤ entry.2 := by
  induction entries with
  | nil =>
      intro least found
      cases found
  | cons first rest ih =>
      intro least found entry member
      rcases leastDistance?_cons found with ⟨rfl, below⟩ | ⟨nearest, less⟩
      · rcases List.mem_cons.1 member with rfl | later
        · exact Nat.le_refl _
        · obtain ⟨other, nearest⟩ := Option.ne_none_iff_exists'.1
            (mt leastDistance?_eq_none_iff.1 (List.ne_nil_of_mem later))
          exact Nat.le_trans (below other nearest) (ih nearest entry later)
      · rcases List.mem_cons.1 member with rfl | later
        · exact Nat.le_of_lt less
        · exact ih nearest entry later

theorem leastDistance?_zero (index : Nat) (rest : List (Nat × Nat)) :
    leastDistance? ((index, 0) :: rest) = some (index, 0) := by
  rw [leastDistance?]
  cases leastDistance? rest with
  | none => rfl
  | some least => exact if_pos (Nat.zero_le least.2)

/-! ### The preferred place -/

section Choice

variable {device : Device} {choice : BufferChoice} {buffers : List ClockBuffer}
  {driver : Option Loc} {first second third : Nat}

theorem Prefers.trans (earlier : Prefers device choice buffers driver first second)
    (later : Prefers device choice buffers driver second third) :
    Prefers device choice buffers driver first third := by
  unfold Prefers at *
  omega

theorem Prefers.ne (earlier : Prefers device choice buffers driver first second) :
    first ≠ second := by
  rintro rfl
  unfold Prefers at earlier
  omega

theorem Prefers.asymm (earlier : Prefers device choice buffers driver first second) :
    ¬ Prefers device choice buffers driver second first := by
  intro later
  unfold Prefers at *
  omega

theorem prefers_firstFit_iff :
    Prefers device .firstFit buffers driver first second ↔ first < second := by
  have none : ∀ place, distanceAt device .firstFit buffers driver place = 0 := by
    intro place
    rw [distanceAt]
    cases buffers[place]? <;> rfl
  simp [Prefers, none]

theorem distances_of_ok {location : Loc} (candidates : List (ClockBuffer × Nat)) :
    ∀ {measured}, distances device location candidates = .ok measured →
      measured = candidates.map fun candidate =>
        (candidate.2, distance device .nearest (some location) candidate.1) := by
  induction candidates with
  | nil =>
      intro measured done
      cases done
      rfl
  | cons candidate rest ih =>
      obtain ⟨buffer, index⟩ := candidate
      intro measured done
      simp only [distances, locate] at done
      cases located : device.location? buffer.bel with
      | none =>
          rw [located] at done
          cases done
      | some place =>
          simp only [located, Fault.unless] at done
          split at done
          · cases done
          · rename_i more further
            cases done
            simp only [List.map_cons, distance, located, Option.map_some, Option.getD_some,
              ih further]

/-- For either choice, the candidate that is taken has the least distance. -/
theorem choose?_of_ok {candidates : List (ClockBuffer × Nat)} {answer : Option Nat}
    (decided : choose? device choice candidates driver = .ok answer) :
    answer = (leastDistance? (candidates.map fun candidate =>
      (candidate.2, distance device choice driver candidate.1))).map Prod.fst := by
  have head : candidates.head?.map Prod.snd =
      (leastDistance? (candidates.map fun candidate => (candidate.2, 0))).map Prod.fst := by
    cases candidates with
    | nil => rfl
    | cons candidate rest =>
        rw [List.map_cons, leastDistance?_zero]
        rfl
  cases choice with
  | firstFit =>
      cases decided
      exact head
  | nearest =>
      cases driver with
      | none =>
          cases decided
          exact head
      | some location =>
          simp only [choose?] at decided
          split at decided
          · cases decided
          · rename_i measured done
            cases decided
            rw [distances_of_ok candidates done]

/-- The least of some candidates that come by their places is preferred to all others. -/
theorem least_of_pairwise (candidates : List (ClockBuffer × Nat))
    (ordered : candidates.Pairwise fun one other => one.2 < other.2) :
    ∀ {least : Nat × Nat}, leastDistance? (candidates.map fun candidate =>
        (candidate.2, distance device choice driver candidate.1)) = some least →
      (∃ buffer, (buffer, least.1) ∈ candidates ∧ least.2 = distance device choice driver buffer) ∧
        ∀ candidate ∈ candidates, candidate.2 ≠ least.1 →
          least.2 < distance device choice driver candidate.1 ∨
            least.2 = distance device choice driver candidate.1 ∧ least.1 < candidate.2 := by
  induction candidates with
  | nil =>
      intro least found
      cases found
  | cons candidate rest ih =>
      obtain ⟨before, ordered⟩ := List.pairwise_cons.1 ordered
      intro least found
      have all := leastDistance?_le _ found
      rcases leastDistance?_cons found with ⟨rfl, _⟩ | ⟨nearest, less⟩
      · refine ⟨⟨candidate.1, List.mem_cons_self, rfl⟩, fun other member different => ?_⟩
        rcases List.mem_cons.1 member with rfl | later
        · exact absurd rfl different
        · have above := all _ (List.mem_map_of_mem member)
          have behind := before other later
          simp only at above behind ⊢
          omega
      · obtain ⟨⟨buffer, member, same⟩, others⟩ := ih ordered nearest
        refine ⟨⟨buffer, List.mem_cons_of_mem _ member, same⟩, fun other there different => ?_⟩
        rcases List.mem_cons.1 there with rfl | later
        · exact Or.inl less
        · exact others other later different

theorem pairwise_free (buffers : List ClockBuffer) (used : List Nat) (tier : DriverTier) :
    (free buffers used tier).Pairwise fun one other => one.2 < other.2 := by
  have places : (buffers.zipIdx.map Prod.snd).Pairwise (· < ·) := by
    rw [List.zipIdx_map_snd]
    exact List.pairwise_lt_range'
  exact (List.pairwise_map.1 places).filter _

theorem acceptsAt_iff {tier : DriverTier} {place : Nat} :
    acceptsAt buffers tier place = true ↔
      ∃ buffer, buffers[place]? = some buffer ∧ buffer.accepts tier = true := by
  rw [acceptsAt, Option.any_eq_true]

theorem lt_of_acceptsAt {tier : DriverTier} {place : Nat}
    (accepts : acceptsAt buffers tier place = true) : place < buffers.length := by
  obtain ⟨buffer, found, _⟩ := acceptsAt_iff.1 accepts
  exact (List.getElem?_eq_some_iff.1 found).1

/-- No place is taken when all that accept the request are used. -/
theorem choose?_free_none {used : List Nat} {tier : DriverTier}
    (nothing : choose? device choice (free buffers used tier) driver = .ok none) {place : Nat}
    (accepts : acceptsAt buffers tier place = true) : place ∈ used := by
  refine Decidable.byContradiction fun unused => ?_
  obtain ⟨buffer, found, accepts⟩ := acceptsAt_iff.1 accepts
  have member : (buffer, place) ∈ free buffers used tier := mem_free_iff.2 ⟨found, unused, accepts⟩
  have empty := Option.map_eq_none_iff.1 (choose?_of_ok nothing).symm
  rw [leastDistance?_eq_none_iff, List.map_eq_nil_iff] at empty
  rw [empty] at member
  cases member

/-- **The place that is taken is free, and preferred to all others that are.** -/
theorem choose?_free_spec {used : List Nat} {tier : DriverTier} {place : Nat}
    (chosen : choose? device choice (free buffers used tier) driver = .ok (some place)) :
    acceptsAt buffers tier place = true ∧ place ∉ used ∧
      ∀ other, acceptsAt buffers tier other = true → other ∉ used → other ≠ place →
        Prefers device choice buffers driver place other := by
  obtain ⟨entry, least, rfl⟩ := Option.map_eq_some_iff.1 (choose?_of_ok chosen).symm
  obtain ⟨⟨buffer, member, near⟩, others⟩ := least_of_pairwise _ (pairwise_free _ _ _) least
  obtain ⟨found, unused, accepts⟩ := mem_free_iff.1 member
  refine ⟨acceptsAt_iff.2 ⟨buffer, found, accepts⟩, unused, fun other accepts' unused' different => ?_⟩
  obtain ⟨otherBuffer, found', accepts'⟩ := acceptsAt_iff.1 accepts'
  have after := others _ (mem_free_iff.2 ⟨found', unused', accepts'⟩) different
  simp only [Prefers, distanceAt, found, found', Option.map_some, Option.getD_some]
  rw [← near]
  exact after

/-- Among buffers of the device there always is an answer. -/
theorem choose?_free_total (measurable : Measurable device choice buffers) (used : List Nat)
    (tier : DriverTier) (driver : Option Loc) :
    ∃ answer, choose? device choice (free buffers used tier) driver = .ok answer := by
  cases choice with
  | firstFit => exact ⟨_, rfl⟩
  | nearest =>
      have there : ∀ candidate ∈ free buffers used tier, device.isBel candidate.1.bel = true := by
        rintro ⟨buffer, place⟩ member
        exact measurable rfl buffer (List.mem_of_getElem? (mem_free_iff.1 member).1)
      obtain ⟨answer, decided, _⟩ := choose?_spec .nearest driver there
      exact ⟨answer, decided⟩

end Choice

end ClockBuffer

end UltraFabric
