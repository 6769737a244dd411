/-
# UltraFabric.Proofs.Nested — when serving in order serves all that can be served

Requests take buffers in order and keep them, so a request may take the one buffer that a later request
needs.  Whether that can happen depends on the buffers.  A request takes the buffer that is nearest to
its driver, or the first of them (`Prefers`), and nothing is lost by that as long as a buffer that is
taken in place of another accepts nothing that the other would refuse (`Nested`).

* `assignFrom_of_nested`: then a list of requests is served whenever there is any way to serve it.  The
  places of such a way are exchanged one by one for those that are taken.
* `nested_of_complete`: otherwise there is a list of requests that could be served and is not.  It asks
  for the buffers up to the one that is taken too early, and then for one more than are left of the
  kind that only this one could have served.
* `capacity_exact_iff_nested`: both together; and then what is said about the clock nets of a lobe does
  not depend on the order in which they were mentioned.
-/
import Mathlib.Data.Finset.Card
import Mathlib.Data.List.Forall2
import UltraFabric.Proofs.Checks

namespace UltraFabric

set_option autoImplicit false

namespace ClockBuffer

/-! ### Nested buffers -/

/-- A place that may be taken in place of another, for a request that either could serve, accepts
nothing that the other refuses. -/
def Nested (device : Device) (choice : BufferChoice) (buffers : List ClockBuffer)
    (tiers : DriverTier → Prop) : Prop :=
  ∀ driver first second, Prefers device choice buffers driver first second →
    ∀ tier other, tiers tier → tiers other →
      acceptsAt buffers tier first = true → acceptsAt buffers tier second = true →
      acceptsAt buffers other first = true → acceptsAt buffers other second = true

section Requests

variable {device : Device} {choice : BufferChoice} {buffers : List ClockBuffer}
  {tiers : DriverTier → Prop}

/-- Requests in another order can be served as well. -/
theorem Assignable.perm {requests others : List ClockRequest} (reordered : requests.Perm others)
    (assignable : Assignable buffers requests) : Assignable buffers others := by
  obtain ⟨places, distinct, accepted⟩ := assignable
  obtain ⟨places', accepted', reordered'⟩ :=
    List.perm_comp_forall₂ reordered.symm accepted
  exact ⟨places', reordered'.nodup_iff.2 distinct, accepted'⟩

/-- A place can be given up for another that accepts as much. -/
theorem accepted_exchange {place own : Nat}
    (within : ∀ tier, tiers tier → acceptsAt buffers tier place = true →
      acceptsAt buffers tier own = true) {requests : List ClockRequest} {places : List Nat}
    (accepted : List.Forall₂ (fun request place => acceptsAt buffers request.tier place = true)
      requests places) (known : ∀ request ∈ requests, tiers request.tier) :
    List.Forall₂ (fun request place => acceptsAt buffers request.tier place = true) requests
      (places.map fun other => if other = place then own else other) := by
  rw [List.forall₂_map_right_iff]
  refine ((List.forall₂_and_left _ _).2 ⟨known, accepted⟩).imp fun request other served => ?_
  obtain ⟨knownTier, accepts⟩ := served
  split
  · rename_i here
    exact within request.tier knownTier (here ▸ accepts)
  · exact accepts

/-- Whoever was to have a place that is taken can have one that is left free by that. -/
theorem Serves.exchange {requests : List ClockRequest} {places used : List Nat} {place own : Nat}
    (serves : Serves buffers requests places) (known : ∀ request ∈ requests, tiers request.tier)
    (within : place ≠ own → ∀ tier, tiers tier → acceptsAt buffers tier place = true →
      acceptsAt buffers tier own = true)
    (left : own ∉ places) (unusedOwn : own ∉ used) (unused : ∀ other ∈ places, other ∉ used) :
    ∃ others, Serves buffers requests others ∧ ∀ other ∈ others, other ∉ place :: used := by
  obtain ⟨distinct, accepted⟩ := serves
  by_cases same : place = own
  · subst same
    refine ⟨places, ⟨distinct, accepted⟩, fun other member => ?_⟩
    rw [List.mem_cons, not_or]
    exact ⟨fun here => left (here ▸ member), unused other member⟩
  · refine ⟨_, ⟨?_, accepted_exchange (within same) accepted known⟩, fun other member => ?_⟩
    · refine (List.nodup_map_iff_inj_on distinct).2 fun one member other member' => ?_
      have apart : one ≠ own := fun here => left (here ▸ member)
      have apart' : other ≠ own := fun here => left (here ▸ member')
      grind
    · obtain ⟨old, there, rfl⟩ := List.mem_map.1 member
      rw [List.mem_cons, not_or]
      split
      · exact ⟨fun here => same here.symm, unusedOwn⟩
      · rename_i elsewhere
        exact ⟨elsewhere, unused old there⟩

/-- **Among nested buffers, requests are served whenever they can be.** -/
theorem assignFrom_of_nested (measurable : Measurable device choice buffers)
    (nested : Nested device choice buffers tiers) (requests : List ClockRequest) :
    ∀ {used places}, (∀ request ∈ requests, tiers request.tier) → Serves buffers requests places →
      (∀ place ∈ places, place ∉ used) →
      ∃ served, assignFrom device choice buffers used requests = .ok (some served) := by
  induction requests with
  | nil =>
      intro used places _ _ _
      exact ⟨[], rfl⟩
  | cons request rest ih =>
      rintro used places known ⟨distinct, accepted⟩ unused
      obtain ⟨knownFirst, known⟩ := List.forall_mem_cons.1 known
      cases accepted with
      | @cons _ own _ places accepts accepted =>
      obtain ⟨left, distinct⟩ := List.nodup_cons.1 distinct
      obtain ⟨unusedOwn, unused⟩ := List.forall_mem_cons.1 unused
      obtain ⟨answer, chosen⟩ := choose?_free_total measurable used request.tier request.driver
      cases answer with
      | none => exact absurd (choose?_free_none chosen accepts) unusedOwn
      | some place =>
      obtain ⟨acceptsPlace, _, best⟩ := choose?_free_spec chosen
      have within : place ≠ own → ∀ tier, tiers tier → acceptsAt buffers tier place = true →
          acceptsAt buffers tier own = true := fun different tier known' =>
        nested request.driver place own (best own accepts unusedOwn (Ne.symm different))
          request.tier tier knownFirst known' acceptsPlace accepts
      -- If a later request was to have `place`, it gets `own`, which nobody has any more.
      obtain ⟨others, serves, fresh⟩ :=
        Serves.exchange ⟨distinct, accepted⟩ known within left unusedOwn unused
      obtain ⟨served, assigned⟩ := ih known serves fresh
      exact ⟨place :: served, by simp only [assignFrom, chosen, assigned, Option.map_some]⟩

/-! ### Requests that could be served and are not -/

/-- The places that accept a tier. -/
def accepting (buffers : List ClockBuffer) (tier : DriverTier) : Finset Nat :=
  (Finset.range buffers.length).filter fun place => acceptsAt buffers tier place = true

/-- The places that accept a tier, up to one that a request with this driver takes at last. -/
def acceptingUpTo (device : Device) (choice : BufferChoice) (buffers : List ClockBuffer)
    (driver : Option Loc) (tier : DriverTier) (last : Nat) : Finset Nat :=
  (accepting buffers tier).filter fun place =>
    place = last ∨ Prefers device choice buffers driver place last

/-- Requests that take all places of a tier up to some place, and one request more of another tier
than that leaves places for. -/
def overtaking (device : Device) (choice : BufferChoice) (buffers : List ClockBuffer)
    (driver : Option Loc) (tier other : DriverTier) (last : Nat) : List ClockRequest :=
  let early := acceptingUpTo device choice buffers driver tier last
  List.replicate early.card ⟨"", tier, driver⟩ ++
    List.replicate ((accepting buffers other \ early).card + 1) ⟨"", other, driver⟩

theorem mem_accepting_iff {tier : DriverTier} {place : Nat} :
    place ∈ accepting buffers tier ↔ acceptsAt buffers tier place = true := by
  rw [accepting, Finset.mem_filter, Finset.mem_range]
  exact ⟨And.right, fun accepts => ⟨lt_of_acceptsAt accepts, accepts⟩⟩

theorem mem_acceptingUpTo_iff {driver : Option Loc} {tier : DriverTier} {place last : Nat} :
    place ∈ acceptingUpTo device choice buffers driver tier last ↔
      acceptsAt buffers tier place = true ∧
        (place = last ∨ Prefers device choice buffers driver place last) := by
  rw [acceptingUpTo, Finset.mem_filter, mem_accepting_iff]

/-- Requests of one kind are served by as many places as there are requests. -/
theorem accepted_replicate_iff {request : ClockRequest} {places : List Nat} :
    ∀ {count : Nat}, List.Forall₂ (fun request place => acceptsAt buffers request.tier place = true)
        (List.replicate count request) places ↔
      places.length = count ∧ ∀ place ∈ places, acceptsAt buffers request.tier place = true := by
  induction places with
  | nil =>
      intro count
      cases count <;> simp [List.replicate_succ]
  | cons place rest ih =>
      intro count
      cases count with
      | zero => simp
      | succ count =>
          rw [List.replicate_succ, List.forall₂_cons, ih, List.forall_mem_cons, List.length_cons,
            Nat.add_right_cancel_iff]
          exact and_left_comm

/-- Requests of one kind take all places of a set that come before the others. -/
theorem takes_of_replicate (request : ClockRequest) {early : Finset Nat}
    (accepting : ∀ place ∈ early, acceptsAt buffers request.tier place = true)
    (closed : ∀ place other, other ∈ early → acceptsAt buffers request.tier place = true →
      Prefers device choice buffers request.driver place other → place ∈ early)
    (count : Nat) (rest : List ClockRequest) :
    ∀ {used served}, (early \ used.toFinset).card ≤ count →
      assignFrom device choice buffers used (List.replicate count request ++ rest) =
        .ok (some served) →
      ∃ used' served', early ⊆ used'.toFinset ∧
        assignFrom device choice buffers used' rest = .ok (some served') := by
  induction count with
  | zero =>
      intro used served few assigned
      have none_left := Finset.card_eq_zero.1 (Nat.le_zero.1 few)
      exact ⟨used, served, Finset.sdiff_eq_empty_iff_subset.1 none_left, assigned⟩
  | succ count ih =>
      intro used served few assigned
      obtain ⟨place, others, _, chosen, later⟩ := assignFrom_cons assigned
      obtain ⟨accepts, unused, best⟩ := choose?_free_spec chosen
      refine ih ?_ later
      have fewer : early \ (place :: used).toFinset = (early \ used.toFinset).erase place := by
        rw [List.toFinset_cons, Finset.sdiff_insert]
      rw [fewer]
      by_cases empty : early \ used.toFinset = ∅
      · simp [empty]
      · obtain ⟨other, member⟩ := Finset.nonempty_iff_ne_empty.2 empty
        obtain ⟨inside, unused'⟩ := Finset.mem_sdiff.1 member
        rw [List.mem_toFinset] at unused'
        -- As long as one place of the set is left, the place that is taken is one of the set.
        have taken : place ∈ early := by
          by_cases same : other = place
          · exact same ▸ inside
          · exact closed place other inside accepts (best other (accepting other inside) unused' same)
        have there : place ∈ early \ used.toFinset :=
          Finset.mem_sdiff.2 ⟨taken, fun old => unused (List.mem_toFinset.1 old)⟩
        rw [Finset.card_erase_of_mem there]
        omega

section Overtaking

variable {driver : Option Loc} {tier other : DriverTier} {first second : Nat}

/-- They can be served, if a place of the other tier is given up for one that only the first tier can
have. -/
theorem assignable_overtaking (before : Prefers device choice buffers driver first second)
    (firstTier : acceptsAt buffers tier first = true)
    (secondTier : acceptsAt buffers tier second = true)
    (firstOther : acceptsAt buffers other first = true)
    (refuses : acceptsAt buffers other second ≠ true) :
    Assignable buffers (overtaking device choice buffers driver tier other first) := by
  unfold overtaking
  generalize same : acceptingUpTo device choice buffers driver tier first = early
  have mem_early : ∀ place, place ∈ early ↔ acceptsAt buffers tier place = true ∧
      (place = first ∨ Prefers device choice buffers driver place first) := by
    intro place
    rw [← same, mem_acceptingUpTo_iff]
  have firstEarly : first ∈ early := (mem_early first).2 ⟨firstTier, Or.inl rfl⟩
  have secondLate : second ∉ early := by
    intro member
    rcases ((mem_early second).1 member).2 with same | after
    · exact before.ne same.symm
    · exact before.asymm after
  have tierCount : (insert second (early.erase first)).card = early.card := by
    rw [Finset.card_insert_of_notMem fun member => secondLate (Finset.mem_of_mem_erase member),
      Finset.card_erase_add_one firstEarly]
  have otherCount : (insert first (accepting buffers other \ early)).card =
      (accepting buffers other \ early).card + 1 :=
    Finset.card_insert_of_notMem fun member => (Finset.mem_sdiff.1 member).2 firstEarly
  have apart : Disjoint (insert second (early.erase first))
      (insert first (accepting buffers other \ early)) := by
    refine Finset.disjoint_left.2 fun place member member' => ?_
    simp only [Finset.mem_insert, Finset.mem_erase, Finset.mem_sdiff, mem_accepting_iff] at member member'
    rcases member with rfl | ⟨different, inside⟩
    · rcases member' with same | ⟨accepts, _⟩
      · exact before.ne same.symm
      · exact refuses accepts
    · rcases member' with same | ⟨_, outside⟩
      · exact different same
      · exact outside inside
  -- `second` takes the part of `first`, which serves the one request more of the other tier.
  refine ⟨(insert second (early.erase first)).toList ++
    (insert first (accepting buffers other \ early)).toList, ?_, List.rel_append ?_ ?_⟩
  · refine List.nodup_append.2 ⟨Finset.nodup_toList _, Finset.nodup_toList _, ?_⟩
    rintro place member _ member' rfl
    exact Finset.disjoint_left.1 apart (Finset.mem_toList.1 member) (Finset.mem_toList.1 member')
  · refine accepted_replicate_iff.2 ⟨by rw [Finset.length_toList, tierCount], fun place member => ?_⟩
    rcases Finset.mem_insert.1 (Finset.mem_toList.1 member) with rfl | member
    · exact secondTier
    · exact ((mem_early place).1 (Finset.mem_of_mem_erase member)).1
  · refine accepted_replicate_iff.2 ⟨by rw [Finset.length_toList, otherCount], fun place member => ?_⟩
    rcases Finset.mem_insert.1 (Finset.mem_toList.1 member) with rfl | member
    · exact firstOther
    · exact mem_accepting_iff.1 (Finset.mem_sdiff.1 member).1

/-- They are not served: the places are gone when the other tier is asked for. -/
theorem not_assigned_overtaking {served : List Nat} :
    assign device choice buffers (overtaking device choice buffers driver tier other first) ≠
      .ok (some served) := by
  intro assigned
  have closed : ∀ place own, own ∈ acceptingUpTo device choice buffers driver tier first →
      acceptsAt buffers tier place = true → Prefers device choice buffers driver place own →
      place ∈ acceptingUpTo device choice buffers driver tier first := by
    intro place own inside accepts better
    refine mem_acceptingUpTo_iff.2 ⟨accepts, Or.inr ?_⟩
    rcases (mem_acceptingUpTo_iff.1 inside).2 with rfl | before
    · exact better
    · exact better.trans before
  have taken : ∀ place ∈ acceptingUpTo device choice buffers driver tier first,
      acceptsAt buffers tier place = true := fun place member => (mem_acceptingUpTo_iff.1 member).1
  simp only [assign, overtaking] at assigned
  obtain ⟨used, others, gone, later⟩ :=
    takes_of_replicate ⟨"", tier, driver⟩ taken closed _ _
      (Finset.card_le_card Finset.sdiff_subset) assigned
  obtain ⟨⟨distinct, accepted⟩, fresh⟩ := serves_of_assignFrom _ later
  obtain ⟨length, accepted⟩ := accepted_replicate_iff.1 accepted
  have few : others.toFinset ⊆
      accepting buffers other \ acceptingUpTo device choice buffers driver tier first := by
    intro place member
    rw [List.mem_toFinset] at member
    exact Finset.mem_sdiff.2 ⟨mem_accepting_iff.2 (accepted place member), fun inside =>
      fresh place member (List.mem_toFinset.1 (gone inside))⟩
  have count := Finset.card_le_card few
  rw [List.toFinset_card_of_nodup distinct, length] at count
  omega

end Overtaking

/-- **Where requests are served whenever they can be, the buffers are nested.** -/
theorem nested_of_complete (complete : ∀ requests : List ClockRequest,
      (∀ request ∈ requests, tiers request.tier) → Assignable buffers requests →
      ∃ served, assign device choice buffers requests = .ok (some served)) :
    Nested device choice buffers tiers := by
  intro driver first second before tier other known known' firstTier secondTier firstOther
  refine Decidable.byContradiction fun refuses => ?_
  have inside : ∀ request ∈ overtaking device choice buffers driver tier other first,
      tiers request.tier := by
    intro request member
    rcases List.mem_append.1 member with member | member
    · exact (List.eq_of_mem_replicate member) ▸ known
    · exact (List.eq_of_mem_replicate member) ▸ known'
  obtain ⟨served, assigned⟩ := complete _ inside
    (assignable_overtaking before firstTier secondTier firstOther refuses)
  exact not_assigned_overtaking assigned

/-! ### Both together -/

/-- Among nested buffers requests are served exactly when they can be. -/
theorem assignable_iff_of_nested (measurable : Measurable device choice buffers)
    (nested : Nested device choice buffers tiers) {requests : List ClockRequest}
    (known : ∀ request ∈ requests, tiers request.tier) :
    Assignable buffers requests ↔
      ∃ served, assign device choice buffers requests = .ok (some served) := by
  constructor
  · rintro ⟨places, serves⟩
    exact assignFrom_of_nested measurable nested requests known serves fun _ _ => by simp
  · rintro ⟨served, assigned⟩
    exact ⟨served, (serves_of_assignFrom requests assigned).1⟩

end Requests

end ClockBuffer

namespace Plan

section Lobe

variable {plan : Plan} {moves : Placement} {cell : Cell} {bel : BelId} {lobe : Nat}
  {buffers : List ClockBuffer} {tiers : DriverTier → Prop}

/-- What the clock nets of a lobe ask for, those of a cell and of cells that move there among them. -/
def lobeRequests (plan : Plan) (moves : Placement) (cell : Cell) (lobe : Nat) : List ClockRequest :=
  (plan.lobeNets moves cell lobe).map plan.clockRequest

/-- **Among nested buffers, a lobe is refused only when its clock nets cannot be served.** -/
theorem clockViolation?_of_nested (plan : Plan)
    (measurable : ClockBuffer.Measurable plan.device plan.fabric.options.bufferChoice buffers)
    (nested : ClockBuffer.Nested plan.device plan.fabric.options.bufferChoice buffers tiers)
    (here : plan.fabric.tables.tiles.lobe? bel.tile = some lobe)
    (found : plan.fabric.tables.buffers[lobe]? = some buffers)
    (known : ∀ request ∈ plan.lobeRequests moves cell lobe, tiers request.tier) :
    ((plan.bufferedNets cell = [] ∨
        ClockBuffer.Assignable buffers (plan.lobeRequests moves cell lobe)) →
      plan.clockViolation? moves cell bel = .ok none) ∧
    (¬ (plan.bufferedNets cell = [] ∨
        ClockBuffer.Assignable buffers (plan.lobeRequests moves cell lobe)) →
      plan.clockViolation? moves cell bel = .ok (some (.clockCapacity lobe
        (plan.lobeNets moves cell lobe).length buffers.length))) := by
  have served := ClockBuffer.assignable_iff_of_nested measurable nested known
  rw [lobeRequests] at served ⊢
  unfold clockViolation? capacityVerdict
  constructor
  · rintro (empty | assignable)
    · rw [if_pos (List.isEmpty_iff.2 empty)]
    · have enough := assignable.length_le
      rw [List.length_map] at enough
      obtain ⟨places, assigned⟩ := served.1 assignable
      simp only [here, found, assigned, if_neg (Nat.not_lt.2 enough), ite_self]
  · intro refused
    obtain ⟨clocked, unassignable⟩ := not_or.1 refused
    rw [if_neg (mt List.isEmpty_iff.1 clocked)]
    simp only [here, found]
    split
    · rfl
    · obtain ⟨answer, assigned⟩ := ClockBuffer.assignFrom_total measurable
        ((plan.lobeNets moves cell lobe).map plan.clockRequest) []
      rw [← ClockBuffer.assign] at assigned
      rw [assigned]
      cases answer with
      | none => rfl
      | some places => exact absurd (served.2 ⟨places, assigned⟩) unassignable

/-- In which order names were mentioned decides in which order clock nets ask, and nothing else. -/
theorem lobeNets_perm (plan : Plan) (lexicon : Lexicon) (moves : Placement) (cell : Cell)
    (lobe : Nat) :
    ({ plan with lexicon }.lobeNets moves cell lobe).Perm (plan.lobeNets moves cell lobe) :=
  (List.mergeSort_perm _ _).trans (List.mergeSort_perm _ _).symm

/-- **Among nested buffers, the order in which names were mentioned does not matter.** -/
theorem clockViolation?_withLexicon
    (measurable : ClockBuffer.Measurable plan.device plan.fabric.options.bufferChoice buffers)
    (nested : ClockBuffer.Nested plan.device plan.fabric.options.bufferChoice buffers tiers)
    (here : plan.fabric.tables.tiles.lobe? bel.tile = some lobe)
    (found : plan.fabric.tables.buffers[lobe]? = some buffers)
    (known : ∀ request ∈ plan.lobeRequests moves cell lobe, tiers request.tier)
    (lexicon : Lexicon) :
    { plan with lexicon }.clockViolation? moves cell bel = plan.clockViolation? moves cell bel := by
  have nets := plan.lobeNets_perm lexicon moves cell lobe
  have requests : ({ plan with lexicon }.lobeRequests moves cell lobe).Perm
      (plan.lobeRequests moves cell lobe) := nets.map plan.clockRequest
  have known' : ∀ request ∈ { plan with lexicon }.lobeRequests moves cell lobe,
      tiers request.tier := fun request member => known request (requests.mem_iff.1 member)
  obtain ⟨accepted, refused⟩ := clockViolation?_of_nested plan measurable nested here found known
  obtain ⟨accepted', refused'⟩ := clockViolation?_of_nested { plan with lexicon }
    measurable nested here found known'
  by_cases served : plan.bufferedNets cell = [] ∨
      ClockBuffer.Assignable buffers (plan.lobeRequests moves cell lobe)
  · rw [accepted served, accepted' (served.imp_right (ClockBuffer.Assignable.perm requests.symm))]
  · rw [refused served, refused' fun served' =>
      served (served'.imp_right (ClockBuffer.Assignable.perm requests)), nets.length_eq]

end Lobe

/-- **When capacity is refused only where it is exceeded.**  Requests of some tiers are served whenever
they can be, by whatever places, exactly when the buffers are nested for these tiers.  A lobe with such
buffers accepts a cell exactly when all its clock nets can be served, and says the same in whatever
order they were mentioned. -/
theorem capacity_exact_iff_nested (device : Device) (choice : BufferChoice)
    (buffers : List ClockBuffer) (tiers : DriverTier → Prop)
    (measurable : ClockBuffer.Measurable device choice buffers) :
    ((∀ requests : List ClockRequest, (∀ request ∈ requests, tiers request.tier) →
        (ClockBuffer.Assignable buffers requests ↔
          ∃ served, ClockBuffer.assign device choice buffers requests = .ok (some served))) ↔
      ClockBuffer.Nested device choice buffers tiers) ∧
    (ClockBuffer.Nested device choice buffers tiers →
      ∀ (plan : Plan) (moves : Placement) (cell : Cell) (bel : BelId) (lobe : Nat),
        plan.device = device → plan.fabric.options.bufferChoice = choice →
        plan.fabric.tables.tiles.lobe? bel.tile = some lobe →
        plan.fabric.tables.buffers[lobe]? = some buffers →
        (∀ request ∈ plan.lobeRequests moves cell lobe, tiers request.tier) →
          (plan.clockViolation? moves cell bel = .ok none ↔ plan.bufferedNets cell = [] ∨
            ClockBuffer.Assignable buffers (plan.lobeRequests moves cell lobe)) ∧
          ∀ lexicon : Lexicon, { plan with lexicon }.clockViolation? moves cell bel =
            plan.clockViolation? moves cell bel) := by
  refine ⟨⟨fun complete => ?_, fun nested requests known => ?_⟩, ?_⟩
  · exact ClockBuffer.nested_of_complete fun requests known =>
      (complete requests known).1
  · exact ClockBuffer.assignable_iff_of_nested measurable nested known
  · rintro nested plan moves cell bel lobe rfl rfl here found known
    obtain ⟨accepted, refused⟩ := clockViolation?_of_nested plan measurable nested here found known
    refine ⟨⟨fun quiet => Classical.byContradiction fun unserved => ?_, accepted⟩,
      clockViolation?_withLexicon measurable nested here found known⟩
    rw [refused unserved] at quiet
    cases quiet

end Plan

/-! ### A sample: two buffers in one tile -/

namespace BufferSample

def tileType : TileType :=
  ⟨"LOB", #[⟨"G0", "GCK", 0, 0, [], none, none⟩, ⟨"G1", "GCK", 1, 0, [], none, none⟩], #[], #[], #[]⟩

def chip : Chip :=
  ⟨"buffers", 1, 1, #[tileType], #[⟨0, some ⟨"L0", some 0⟩⟩], [], []⟩

def device : Device :=
  ⟨chip, by decide, Indexes.ofChip chip, rfl⟩

/-- Takes the ring and the fabric. -/
def wide : ClockBuffer :=
  ⟨⟨0, 0⟩, ⟨true, false, true⟩⟩

/-- Takes the fabric only. -/
def narrow : ClockBuffer :=
  ⟨⟨0, 1⟩, ⟨false, false, true⟩⟩

theorem measurable : ClockBuffer.Measurable device .nearest [narrow, wide] := by
  intro _ buffer member
  simp only [List.mem_cons, List.not_mem_nil, or_false] at member
  rcases member with rfl | rfl
  · decide
  · decide

/-- Buffers of one tile are equally far from any driver. -/
theorem nested : ClockBuffer.Nested device .nearest [narrow, wide] fun _ => True := by
  intro driver first second before tier other _ _ firstTier secondTier firstOther
  have inside := ClockBuffer.lt_of_acceptsAt firstTier
  have inside' := ClockBuffer.lt_of_acceptsAt secondTier
  have near : ClockBuffer.distanceAt device .nearest [narrow, wide] driver 0 =
      ClockBuffer.distanceAt device .nearest [narrow, wide] driver 1 := by
    cases driver <;> rfl
  match first, second, inside, inside' with
  | 0, 1, _, _ =>
      cases other with
      | fabric => rfl
      | ring => cases firstOther
      | tube => cases firstOther
  | 0, 0, _, _ => exact absurd rfl before.ne
  | 1, 1, _, _ => exact absurd rfl before.ne
  | 1, 0, _, _ =>
      rcases before with less | ⟨_, less⟩
      · exact absurd less (near ▸ Nat.lt_irrefl _)
      · exact absurd less (by decide)

/-- With the narrow buffer in front, requests are served whenever they can be. -/
theorem exact_of_narrowFirst :
    ClockBuffer.Measurable device .nearest [narrow, wide] ∧
      ClockBuffer.Nested device .nearest [narrow, wide] (fun _ => True) ∧
      ∀ requests : List ClockRequest, ClockBuffer.Assignable [narrow, wide] requests ↔
        ∃ served, ClockBuffer.assign device .nearest [narrow, wide] requests = .ok (some served) :=
  ⟨measurable, nested, fun requests =>
    (Plan.capacity_exact_iff_nested device .nearest [narrow, wide] (fun _ => True) measurable).1.2
      nested requests fun _ _ => trivial⟩

/-- With the wide buffer in front, a request from the fabric takes it, and none is left for the ring;
in the other order both are served.  And the distance to a buffer that is not there has no answer. -/
theorem late_request_starved :
    ClockBuffer.Assignable [wide, narrow] [⟨"a", .fabric, none⟩, ⟨"b", .ring, none⟩] ∧
      ClockBuffer.assign device .firstFit [wide, narrow] [⟨"a", .fabric, none⟩, ⟨"b", .ring, none⟩] =
        .ok none ∧
      ClockBuffer.assign device .nearest [wide, narrow] [⟨"a", .fabric, none⟩, ⟨"b", .ring, none⟩] =
        .ok none ∧
      ClockBuffer.assign device .firstFit [wide, narrow] [⟨"b", .ring, none⟩, ⟨"a", .fabric, none⟩] =
        .ok (some [0, 1]) ∧
      ¬ ClockBuffer.Nested device .firstFit [wide, narrow] (fun _ => True) ∧
      ClockBuffer.Assignable [⟨⟨9, 0⟩, .any⟩] [⟨"a", .fabric, some ⟨0, 0, 0⟩⟩] ∧
      ClockBuffer.assign device .nearest [⟨⟨9, 0⟩, .any⟩] [⟨"a", .fabric, some ⟨0, 0, 0⟩⟩] =
        .error .outOfRange := by
  refine ⟨⟨[1, 0], by decide, .cons rfl (.cons rfl .nil)⟩, rfl, rfl, rfl, fun nested => ?_,
    ⟨[0], by decide, .cons rfl .nil⟩, rfl⟩
  have before : ClockBuffer.Prefers device .firstFit [wide, narrow] none 0 1 :=
    ClockBuffer.prefers_firstFit_iff.2 Nat.zero_lt_one
  cases nested none 0 1 before .fabric .ring trivial trivial rfl rfl rfl

end BufferSample

end UltraFabric
