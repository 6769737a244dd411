/-
# UltraFabric.Proofs.Turns — one request after the other

Requests take their buffers in turn: each one chooses among the places that the earlier ones have left
(`choose?_of_turn`), and the first that finds nothing ends it all (`refused_of_turn`).

So what is assigned is known place by place (`TakenInTurn`).  Every request has a place of its own that
accepts it, and of all places that accept it and were not taken before its turn, this one comes first:
in the list, or by the distance to a driver whose location is known (`ComesFirst`).  The distances are
those of bels of the device; there is no default for a bel that is not there (`located_of_choose?`).

A refusal is one request that finds every place that accepts it taken by earlier requests.  With more
requests than buffers it comes to that, whatever they ask for (`assign_in_turn`).
-/
import UltraFabric.Proofs.Nested

namespace UltraFabric

set_option autoImplicit false

namespace ClockBuffer

/-- Where the buffer at some place of a list is on the device. -/
def locationAt? (device : Device) (buffers : List ClockBuffer) (place : Nat) : Option Loc :=
  buffers[place]?.bind fun buffer => device.location? buffer.bel

/-- A request with this driver takes a place before another: the one that is nearer to the driver, if
nearness counts and the driver has a location, and else the one that is listed first. -/
def ComesFirst (device : Device) (choice : BufferChoice) (buffers : List ClockBuffer)
    (driver : Option Loc) (place other : Nat) : Prop :=
  match choice, driver with
  | .nearest, some driver =>
    ∃ here there, locationAt? device buffers place = some here ∧
      locationAt? device buffers other = some there ∧
        (here.manhattan driver < there.manhattan driver ∨
          here.manhattan driver = there.manhattan driver ∧ place < other)
  | _, _ => place < other

/-- Places that serve some requests and were taken one after the other: each request got the first of
those that accept it and were left by the earlier ones. -/
structure TakenInTurn (device : Device) (choice : BufferChoice) (buffers : List ClockBuffer)
    (requests : List ClockRequest) (served : List Nat) : Prop
    extends Serves buffers requests served where
  inside : ∀ place ∈ served, place < buffers.length
  first : ∀ (turn : Nat) (request : ClockRequest) (place : Nat), requests[turn]? = some request →
    served[turn]? = some place → ∀ other, acceptsAt buffers request.tier other = true →
      other ∉ served.take turn → other ≠ place →
        ComesFirst device choice buffers request.driver place other

section Turns

variable {device : Device} {choice : BufferChoice} {buffers : List ClockBuffer}

/-! ### What comes first -/

/-- Whatever has been measured is somewhere on the device. -/
theorem located_of_distances {driver : Loc} (candidates : List (ClockBuffer × Nat)) :
    ∀ {measured}, distances device driver candidates = .ok measured →
      ∀ candidate ∈ candidates, ∃ location, device.location? candidate.1.bel = some location := by
  induction candidates with
  | nil => simp
  | cons candidate rest ih =>
      obtain ⟨buffer, index⟩ := candidate
      intro measured done other member
      simp only [distances, locate] at done
      cases located : device.location? buffer.bel with
      | none =>
          rw [located] at done
          cases done
      | some location =>
          simp only [located, Fault.unless] at done
          split at done
          · cases done
          · rename_i more further
            rcases List.mem_cons.1 member with rfl | later
            · exact ⟨location, located⟩
            · exact ih further other later

/-- When the nearest buffer could be chosen, all that could have been chosen have locations. -/
theorem located_of_choose? {used : List Nat} {tier : DriverTier} {driver : Loc} {answer : Option Nat}
    (decided : choose? device .nearest (free buffers used tier) (some driver) = .ok answer)
    {place : Nat} (accepts : acceptsAt buffers tier place = true) (unused : place ∉ used) :
    ∃ location, locationAt? device buffers place = some location := by
  obtain ⟨buffer, found, accepts⟩ := acceptsAt_iff.1 accepts
  simp only [choose?] at decided
  split at decided
  · cases decided
  · rename_i measured done
    obtain ⟨location, located⟩ := located_of_distances _ done (buffer, place)
      (mem_free_iff.2 ⟨found, unused, accepts⟩)
    exact ⟨location, by rw [locationAt?, found, Option.bind_some, located]⟩

theorem distanceAt_nearest {driver location : Loc} {place : Nat}
    (located : locationAt? device buffers place = some location) :
    distanceAt device .nearest buffers (some driver) place = location.manhattan driver := by
  obtain ⟨buffer, found, located⟩ := Option.bind_eq_some_iff.1 located
  simp only [distanceAt, found, distance, located, Option.map_some, Option.getD_some]

/-- Where nearness does not count, or cannot, places are preferred by their order. -/
theorem prefers_iff_lt {driver : Option Loc} (unmeasured : choice = .firstFit ∨ driver = none)
    {place other : Nat} : Prefers device choice buffers driver place other ↔ place < other := by
  rcases unmeasured with rfl | rfl
  · exact prefers_firstFit_iff
  · have none : ∀ place, distanceAt device choice buffers none place = 0 := by
      intro place
      rw [distanceAt]
      cases buffers[place]? <;> cases choice <;> rfl
    simp [Prefers, none]

/-- **The place that is taken comes first** among those that are left. -/
theorem comesFirst_of_choose? {used : List Nat} {request : ClockRequest} {place : Nat}
    (chosen : choose? device choice (free buffers used request.tier) request.driver =
      .ok (some place)) {other : Nat} (accepts : acceptsAt buffers request.tier other = true)
    (unused : other ∉ used) (different : other ≠ place) :
    ComesFirst device choice buffers request.driver place other := by
  obtain ⟨acceptsOwn, unusedOwn, best⟩ := choose?_free_spec chosen
  have preferred := best other accepts unused different
  cases choice with
  | firstFit => exact (prefers_iff_lt (.inl rfl)).1 preferred
  | nearest =>
      cases known : request.driver with
      | none =>
          rw [known] at preferred
          exact (prefers_iff_lt (.inr rfl)).1 preferred
      | some driver =>
          rw [known] at chosen preferred
          obtain ⟨here, located⟩ := located_of_choose? chosen acceptsOwn unusedOwn
          obtain ⟨there, located'⟩ := located_of_choose? chosen accepts unused
          rw [Prefers, distanceAt_nearest located, distanceAt_nearest located'] at preferred
          exact ⟨here, there, located, located', preferred⟩

/-! ### Along the requests -/

/-- **Each turn is a choice among what the earlier turns have left.** -/
theorem choose?_of_turn (requests : List ClockRequest) :
    ∀ {used served}, assignFrom device choice buffers used requests = .ok (some served) →
      ∀ (turn : Nat) (request : ClockRequest) (place : Nat), requests[turn]? = some request →
        served[turn]? = some place →
          choose? device choice (free buffers ((served.take turn).reverse ++ used) request.tier)
            request.driver = .ok (some place) := by
  induction requests with
  | nil => simp
  | cons next rest ih =>
      intro used served assigned turn request place asked taken
      obtain ⟨index, others, rfl, chosen, later⟩ := assignFrom_cons assigned
      cases turn with
      | zero =>
          cases asked
          cases taken
          exact chosen
      | succ turn =>
          rw [List.getElem?_cons_succ] at asked taken
          have after := ih later turn request place asked taken
          rw [List.take_succ_cons, List.reverse_cons, List.append_assoc]
          exact after

/-- **A refusal has its turn**: the earlier requests are served, and this one finds nothing. -/
theorem refused_of_turn (requests : List ClockRequest) :
    ∀ {used}, assignFrom device choice buffers used requests = .ok none →
      ∃ (turn : Nat) (request : ClockRequest) (earlier : List Nat), requests[turn]? = some request ∧
        assignFrom device choice buffers used (requests.take turn) = .ok (some earlier) ∧
          choose? device choice (free buffers (earlier.reverse ++ used) request.tier)
            request.driver = .ok none := by
  induction requests with
  | nil =>
      intro used refused
      cases refused
  | cons next rest ih =>
      intro used refused
      rcases assignFrom_cons_none refused with nothing | ⟨index, chosen, later⟩
      · exact ⟨0, next, [], rfl, rfl, nothing⟩
      · obtain ⟨turn, request, earlier, asked, assigned, nothing⟩ := ih later
        refine ⟨turn + 1, request, index :: earlier, ?_, ?_, ?_⟩
        · rw [List.getElem?_cons_succ, asked]
        · simp only [List.take_succ_cons, assignFrom, chosen, assigned, Option.map_some]
        · rw [List.reverse_cons, List.append_assoc]
          exact nothing

theorem takenInTurn_of_assign {requests : List ClockRequest} {served : List Nat}
    (assigned : assign device choice buffers requests = .ok (some served)) :
    TakenInTurn device choice buffers requests served := by
  obtain ⟨serves, _⟩ := serves_of_assignFrom requests assigned
  have turns := choose?_of_turn requests assigned
  refine ⟨serves, fun place member => ?_, ?_⟩
  · obtain ⟨turn, there⟩ := List.mem_iff_getElem?.1 member
    have inside : turn < requests.length := by
      rw [serves.accepted.length_eq]
      exact (List.getElem?_eq_some_iff.1 there).1
    have chosen := turns turn requests[turn] place (List.getElem?_eq_getElem inside) there
    exact lt_of_acceptsAt (choose?_free_spec chosen).1
  · intro turn request place asked taken other accepts left different
    refine comesFirst_of_choose? (turns turn request place asked taken) accepts ?_ different
    rwa [List.append_nil, List.mem_reverse]

/-- **Requests are served in turn.**  What is assigned gives each request, in its turn, the first of the
places that accept it and are left.  When there is no assignment, some request finds all places that
accept it taken by the requests before it.  More requests than buffers are never served; and where
distances can be measured there is an answer, which then is a refusal.

That distances can be measured (`Measurable`) is no condition when the first buffer is taken.  When the
nearest one is, all buffers have to be on bels of the device, as those of the lobes are
(`isBel_of_byLobe`): the place of any other bel is a fault. -/
theorem assign_in_turn (device : Device) (choice : BufferChoice) (buffers : List ClockBuffer)
    (requests : List ClockRequest) :
    (∀ served, assign device choice buffers requests = .ok (some served) →
      TakenInTurn device choice buffers requests served) ∧
    (assign device choice buffers requests = .ok none →
      ∃ (turn : Nat) (request : ClockRequest) (earlier : List Nat), requests[turn]? = some request ∧
        assign device choice buffers (requests.take turn) = .ok (some earlier) ∧
          ∀ place, acceptsAt buffers request.tier place = true → place ∈ earlier) ∧
    (buffers.length < requests.length →
      ∀ served, assign device choice buffers requests ≠ .ok (some served)) ∧
    (Measurable device choice buffers →
      (∃ answer, assign device choice buffers requests = .ok answer) ∧
        (buffers.length < requests.length → assign device choice buffers requests = .ok none)) := by
  have crowded : buffers.length < requests.length →
      ∀ served, assign device choice buffers requests ≠ .ok (some served) :=
    fun more served assigned => absurd (length_le_of_assign assigned) (Nat.not_le.2 more)
  refine ⟨fun served assigned => takenInTurn_of_assign assigned, fun refused => ?_, crowded,
    fun measurable => ?_⟩
  · obtain ⟨turn, request, earlier, asked, assigned, nothing⟩ := refused_of_turn requests refused
    refine ⟨turn, request, earlier, asked, assigned, fun place accepts => ?_⟩
    have taken := choose?_free_none nothing accepts
    rwa [List.append_nil, List.mem_reverse] at taken
  · obtain ⟨answer, done⟩ := assignFrom_total measurable requests []
    refine ⟨⟨answer, done⟩, fun more => ?_⟩
    cases answer with
    | none => exact done
    | some served => exact absurd done (crowded more served)

end Turns

end ClockBuffer

namespace BufferSample

/-- Three clocks ask two buffers of one tile: the first two take theirs in turn, the third is
refused. -/
def requests : List ClockRequest :=
  [⟨"a", .fabric, some ⟨0, 0, 0⟩⟩, ⟨"b", .ring, none⟩, ⟨"c", .fabric, none⟩]

theorem taken_in_turn :
    ClockBuffer.Measurable device .nearest [narrow, wide] ∧
      ClockBuffer.assign device .nearest [narrow, wide] (requests.take 2) = .ok (some [0, 1]) ∧
      ClockBuffer.TakenInTurn device .nearest [narrow, wide] (requests.take 2) [0, 1] ∧
      ClockBuffer.assign device .nearest [narrow, wide] requests = .ok none ∧
      ∃ (turn : Nat) (request : ClockRequest) (earlier : List Nat),
        requests[turn]? = some request ∧
        ClockBuffer.assign device .nearest [narrow, wide] (requests.take turn) = .ok (some earlier) ∧
          ∀ place, ClockBuffer.acceptsAt [narrow, wide] request.tier place = true →
            place ∈ earlier := by
  have assigned : ClockBuffer.assign device .nearest [narrow, wide] (requests.take 2) =
      .ok (some [0, 1]) := rfl
  have refused : ClockBuffer.assign device .nearest [narrow, wide] requests = .ok none :=
    ((ClockBuffer.assign_in_turn device .nearest [narrow, wide] requests).2.2.2 measurable).2
      (by decide)
  exact ⟨measurable, assigned, (ClockBuffer.assign_in_turn device .nearest _ _).1 _ assigned,
    refused, (ClockBuffer.assign_in_turn device .nearest _ requests).2.1 refused⟩

end BufferSample

end UltraFabric
