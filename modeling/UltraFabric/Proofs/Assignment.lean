/-
# UltraFabric.Proofs.Assignment — fewer requests and more buffers

Buffers are given greedily: each request takes the best buffer that is left.  A greedy choice may go
wrong, and with one request less or one buffer more it may go another way.  It cannot go wrong then if
it did not before: `assign_of_sublists` says that a part of a list of requests, in the same order, is
served among a list of buffers and any others that are inserted, whenever the whole list of requests is
served among the first buffers alone.

The two runs are compared by where the first buffers are among all (`Embeds`), which keeps the order of
places and so all preferences.  The invariant is that of the first buffers the second run has used none
that the first run has not used.  When a request of both comes up, either the second run makes the same
choice, or it finds something better: a buffer that was inserted, or one that the first run has used
before (`choose?_of_embeds`).

The clock nets of a lobe are requested in order of first mention, so those of a part of the lobe are a
part of the list (`sort_sublist`).
-/
import Mathlib.Data.List.Forall2
import Mathlib.Data.List.NodupEquivFin
import Mathlib.Data.List.Sort
import UltraFabric.Proofs.Choice

namespace UltraFabric

set_option autoImplicit false

namespace ClockBuffer

/-! ### Ways to serve requests -/

/-- A place for every request, each its own, whose buffer accepts the tier of the request. -/
structure Serves (buffers : List ClockBuffer) (requests : List ClockRequest) (places : List Nat) :
    Prop where
  distinct : places.Nodup
  accepted : List.Forall₂ (fun request place => acceptsAt buffers request.tier place = true) requests
    places

/-- The requests can be served, in whatever way. -/
def Assignable (buffers : List ClockBuffer) (requests : List ClockRequest) : Prop :=
  ∃ places, Serves buffers requests places

section Requests

variable {device : Device} {choice : BufferChoice} {buffers more : List ClockBuffer}

theorem Assignable.length_le {requests : List ClockRequest}
    (assignable : Assignable buffers requests) : requests.length ≤ buffers.length := by
  obtain ⟨places, distinct, accepted⟩ := assignable
  have within : places ⊆ List.range buffers.length := by
    intro place member
    obtain ⟨index, inside, rfl⟩ := List.mem_iff_getElem.1 member
    have paired := (List.forall₂_iff_get.1 accepted).2 index (accepted.length_eq ▸ inside) inside
    exact List.mem_range.2 (lt_of_acceptsAt paired)
  have count := distinct.length_le_of_subset within
  rw [List.length_range, ← accepted.length_eq] at count
  exact count

/-! ### Along a list of requests -/

theorem assignFrom_cons {used served : List Nat} {request : ClockRequest}
    {rest : List ClockRequest}
    (assigned : assignFrom device choice buffers used (request :: rest) = .ok (some served)) :
    ∃ index others, served = index :: others ∧
      choose? device choice (free buffers used request.tier) request.driver = .ok (some index) ∧
        assignFrom device choice buffers (index :: used) rest = .ok (some others) := by
  simp only [assignFrom] at assigned
  split at assigned
  · cases assigned
  · cases assigned
  · rename_i index chosen
    split at assigned
    · cases assigned
    · rename_i answer later
      simp only [Except.ok.injEq] at assigned
      obtain ⟨others, rfl, rfl⟩ := Option.map_eq_some_iff.1 assigned
      exact ⟨index, others, rfl, chosen, later⟩

theorem assignFrom_cons_none {used : List Nat} {request : ClockRequest} {rest : List ClockRequest}
    (refused : assignFrom device choice buffers used (request :: rest) = .ok none) :
    choose? device choice (free buffers used request.tier) request.driver = .ok none ∨
      ∃ index,
        choose? device choice (free buffers used request.tier) request.driver = .ok (some index) ∧
          assignFrom device choice buffers (index :: used) rest = .ok none := by
  simp only [assignFrom] at refused
  split at refused
  · cases refused
  · rename_i nothing
    exact Or.inl nothing
  · rename_i index chosen
    split at refused
    · cases refused
    · rename_i answer later
      simp only [Except.ok.injEq, Option.map_eq_none_iff] at refused
      exact Or.inr ⟨index, chosen, refused ▸ later⟩

/-- An assignment among buffers of the device always ends with an answer. -/
theorem assignFrom_total (measurable : Measurable device choice buffers)
    (requests : List ClockRequest) :
    ∀ used, ∃ answer, assignFrom device choice buffers used requests = .ok answer := by
  induction requests with
  | nil =>
      intro used
      exact ⟨some [], rfl⟩
  | cons request rest ih =>
      intro used
      obtain ⟨chosen, decided⟩ := choose?_free_total measurable used request.tier request.driver
      cases chosen with
      | none => exact ⟨none, by simp only [assignFrom, decided]⟩
      | some place =>
          obtain ⟨answer, later⟩ := ih (place :: used)
          exact ⟨answer.map (place :: ·), by simp only [assignFrom, decided, later]⟩

/-- What is assigned serves the requests, with places that were not used before. -/
theorem serves_of_assignFrom (requests : List ClockRequest) :
    ∀ {used served}, assignFrom device choice buffers used requests = .ok (some served) →
      Serves buffers requests served ∧ ∀ place ∈ served, place ∉ used := by
  induction requests with
  | nil =>
      intro used served assigned
      cases assigned
      exact ⟨⟨List.nodup_nil, .nil⟩, by simp⟩
  | cons request rest ih =>
      intro used served assigned
      obtain ⟨place, others, rfl, chosen, later⟩ := assignFrom_cons assigned
      obtain ⟨accepts, unused, _⟩ := choose?_free_spec chosen
      obtain ⟨⟨distinct, accepted⟩, fresh⟩ := ih later
      refine ⟨⟨List.nodup_cons.2 ⟨fun again => ?_, distinct⟩, .cons accepts accepted⟩, ?_⟩
      · exact fresh place again List.mem_cons_self
      · intro other member
        rcases List.mem_cons.1 member with rfl | member
        · exact unused
        · exact fun old => fresh other member (List.mem_cons_of_mem _ old)

theorem length_le_of_assign {requests : List ClockRequest} {served : List Nat}
    (assigned : assign device choice buffers requests = .ok (some served)) :
    requests.length ≤ buffers.length :=
  Assignable.length_le ⟨served, (serves_of_assignFrom requests assigned).1⟩

/-! ### Buffers among more buffers -/

/-- Each buffer of a list is found in another, in the same order. -/
def Embeds (buffers more : List ClockBuffer) (place : Nat ↪o Nat) : Prop :=
  ∀ index, buffers[index]? = more[place index]?

section Embedded

variable {place : Nat ↪o Nat}

theorem Embeds.acceptsAt (embeds : Embeds buffers more place) (tier : DriverTier) (index : Nat) :
    acceptsAt more tier (place index) = acceptsAt buffers tier index := by
  rw [ClockBuffer.acceptsAt, ClockBuffer.acceptsAt, embeds index]

theorem Embeds.prefers_iff (embeds : Embeds buffers more place) {driver : Option Loc}
    {first second : Nat} : Prefers device choice more driver (place first) (place second) ↔
      Prefers device choice buffers driver first second := by
  have near : ∀ index, distanceAt device choice more driver (place index) =
      distanceAt device choice buffers driver index := by
    intro index
    rw [distanceAt, distanceAt, embeds index]
  rw [Prefers, Prefers, near, near, place.lt_iff_lt]

/-- **Among more buffers, of which fewer are used, a request takes none that is left to the others**,
except the one that it takes there too. -/
theorem choose?_of_embeds (embeds : Embeds buffers more place) {used fewer : List Nat}
    (within : ∀ index, place index ∈ fewer → index ∈ used) {request : ClockRequest} {index own : Nat}
    (chosen : choose? device choice (free buffers used request.tier) request.driver =
      .ok (some index))
    (chosen' : choose? device choice (free more fewer request.tier) request.driver =
      .ok (some own)) :
    ∀ other, place other ∈ own :: fewer → other ∈ index :: used := by
  obtain ⟨accepts, unused, best⟩ := choose?_free_spec chosen
  obtain ⟨acceptsOwn, _, bestOwn⟩ := choose?_free_spec chosen'
  intro other member
  rcases List.mem_cons.1 member with same | old
  · refine Decidable.byContradiction fun free => ?_
    obtain ⟨different, unusedOther⟩ := not_or.1 (mt List.mem_cons.2 free)
    rw [← same, embeds.acceptsAt] at acceptsOwn
    have before := best other acceptsOwn unusedOther different
    -- The place of the first run is free in the second one, so `own` would be preferred to it.
    have there : place index ≠ own := same ▸ place.injective.ne (Ne.symm different)
    have after := bestOwn (place index) (by rw [embeds.acceptsAt, accepts])
      (fun old => unused (within index old)) there
    rw [← same, embeds.prefers_iff] at after
    exact before.asymm after
  · exact List.mem_cons_of_mem _ (within other old)

/-- **A part of the requests is not refused among more buffers**, if fewer of them are used. -/
theorem assignFrom_of_embeds (embeds : Embeds buffers more place)
    {part requests : List ClockRequest} (sublist : part.Sublist requests) :
    ∀ {used fewer served}, (∀ index, place index ∈ fewer → index ∈ used) →
      assignFrom device choice buffers used requests = .ok (some served) →
      assignFrom device choice more fewer part ≠ .ok none := by
  induction sublist with
  | slnil =>
      intro used fewer served _ _ refused
      cases refused
  | cons request sublist ih =>
      intro used fewer served within assigned
      obtain ⟨index, others, _, _, later⟩ := assignFrom_cons assigned
      exact ih (fun other member => List.mem_cons_of_mem _ (within other member)) later
  | cons_cons request sublist ih =>
      intro used fewer served within assigned refused
      obtain ⟨index, others, _, chosen, later⟩ := assignFrom_cons assigned
      rcases assignFrom_cons_none refused with nothing | ⟨own, chosen', refused'⟩
      · obtain ⟨accepts, unused, _⟩ := choose?_free_spec chosen
        have accepts' : acceptsAt more request.tier (place index) = true := by
          rw [embeds.acceptsAt, accepts]
        exact unused (within index (choose?_free_none nothing accepts'))
      · exact ih (choose?_of_embeds embeds within chosen chosen') later refused'

end Embedded

/-- **A part of the requests is not refused when there are more buffers**, whichever those are. -/
theorem assign_of_sublists {part requests : List ClockRequest} {served : List Nat}
    (inserted : buffers.Sublist more) (fewer : part.Sublist requests)
    (assigned : assign device choice buffers requests = .ok (some served)) :
    assign device choice more part ≠ .ok none := by
  obtain ⟨place, embeds⟩ := List.sublist_iff_exists_orderEmbedding_getElem?_eq.1 inserted
  exact assignFrom_of_embeds embeds fewer (by simp) assigned

/-- **And it is served where distances can be measured.** -/
theorem assigned_of_sublists {part requests : List ClockRequest} {served : List Nat}
    (measurable : Measurable device choice more) (inserted : buffers.Sublist more)
    (fewer : part.Sublist requests)
    (assigned : assign device choice buffers requests = .ok (some served)) :
    ∃ served, assign device choice more part = .ok (some served) := by
  obtain ⟨answer, done⟩ := assignFrom_total measurable part []
  cases answer with
  | none => exact absurd done (assign_of_sublists inserted fewer assigned)
  | some served => exact ⟨served, done⟩

end Requests

end ClockBuffer

/-! ### The order of requests -/

namespace Lexicon

/-- Names are compared by their numbers, and those of one number by their text. -/
theorem compareNames_eq (lexicon : Lexicon) :
    lexicon.compareNames = compareLex (compareOn lexicon.rank) compare :=
  rfl

instance (lexicon : Lexicon) : Std.TransCmp lexicon.compareNames := by
  rw [compareNames_eq]
  infer_instance

instance (lexicon : Lexicon) :
    Std.Antisymm fun a b => (lexicon.compareNames a b).isLE = true where
  antisymm a b ab ba := by
    have same : lexicon.compareNames a b = .eq := Std.OrientedCmp.isLE_antisymm ab ba
    rw [compareNames] at same
    rw [Ordering.then_eq_eq, Std.LawfulEqCmp.compare_eq_iff_eq (a := a)] at same
    exact same.2

theorem pairwise_sort (lexicon : Lexicon) (names : List Name) :
    (lexicon.sort names).Pairwise fun a b => (lexicon.compareNames a b).isLE = true := by
  have trans : ∀ a b c, (lexicon.compareNames a b).isLE = true →
      (lexicon.compareNames b c).isLE = true → (lexicon.compareNames a c).isLE = true :=
    fun _ _ _ ab bc => Std.TransCmp.isLE_trans ab bc
  refine List.pairwise_mergeSort trans (fun a b => ?_) names
  cases before : (lexicon.compareNames a b).isLE with
  | true => rfl
  | false =>
      have after : lexicon.compareNames b a = .lt := Std.OrientedCmp.lt_of_not_isLE (by simp [before])
      simp [after]

theorem mem_sort_iff {lexicon : Lexicon} {names : List Name} {name : Name} :
    name ∈ lexicon.sort names ↔ name ∈ names :=
  (List.mergeSort_perm _ _).mem_iff

theorem nodup_sort (lexicon : Lexicon) (names : Std.ExtTreeSet Name) :
    (lexicon.sort names.toList).Nodup := by
  refine (List.mergeSort_perm _ _).nodup_iff.2 (Std.ExtTreeSet.distinct_toList.imp ?_)
  rintro name _ apart rfl
  exact apart Std.ReflCmp.compare_self

/-- **A part of some names comes in the order that all of them have.** -/
theorem sort_sublist (lexicon : Lexicon) {part names : Std.ExtTreeSet Name}
    (within : lexicon.sort part.toList ⊆ lexicon.sort names.toList) :
    (lexicon.sort part.toList).Sublist (lexicon.sort names.toList) :=
  List.sublist_of_subperm_of_pairwise (List.subperm_of_subset (lexicon.nodup_sort part) within)
    (lexicon.pairwise_sort _) (lexicon.pairwise_sort _)

/-- The same names come in the same order. -/
theorem sort_congr (lexicon : Lexicon) {names others : Std.ExtTreeSet Name}
    (same : ∀ name, name ∈ lexicon.sort names.toList ↔ name ∈ lexicon.sort others.toList) :
    lexicon.sort names.toList = lexicon.sort others.toList :=
  (lexicon.sort_sublist fun name => (same name).1).antisymm
    (lexicon.sort_sublist fun name => (same name).2)

end Lexicon

end UltraFabric
