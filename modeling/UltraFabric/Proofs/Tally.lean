/-
# UltraFabric.Proofs.Tally — a tally and the list it counts

A tally changes with every arrival and departure; the list of what is there does not have to be kept.
`Tally.Holds` says that a tally counts a list.  Arrivals keep it for the longer list
(`Holds.arrive`).  A departure takes one away from a count that may be zero already, and then nothing
happens; it keeps the tally right exactly because what leaves has arrived before (`Holds.leave`).

The order of the list does not matter (`Holds.perm`), and a tally is determined by the list
(`Holds.unique`), so a tally that has been kept is the one that a new count gives.
-/
import UltraFabric.Plan.Binding

namespace UltraFabric.Tally

set_option autoImplicit false

variable {γ μ : Type} [Ord γ] [Ord μ] [Std.TransOrd γ] [Std.TransOrd μ]

/-- The tally after some uses arrive or leave, one by one. -/
def changeAll (tally : Tally γ μ) (arrives : Bool) (uses : List (Keyed γ μ)) : Tally γ μ :=
  uses.foldl (fun tally use => tally.change arrives use.group use.member) tally

variable [DecidableEq γ] [DecidableEq μ]

/-- The tally has the counts of a list of uses. -/
def Holds (tally : Tally γ μ) (uses : List (Keyed γ μ)) : Prop :=
  ∀ group member, tally.count group member = uses.count ⟨group, member⟩

theorem holds_empty : (empty : Tally γ μ).Holds [] := by
  intro group member
  rw [count_empty, List.count_nil]

theorem Holds.perm {tally : Tally γ μ} {uses others : List (Keyed γ μ)}
    (holds : tally.Holds uses) (same : uses.Perm others) : tally.Holds others := by
  intro group member
  rw [holds group member, same.count_eq]

theorem Holds.count_ne_zero_iff {tally : Tally γ μ} {uses : List (Keyed γ μ)}
    (holds : tally.Holds uses) {use : Keyed γ μ} :
    tally.count use.group use.member ≠ 0 ↔ use ∈ uses := by
  rw [holds use.group use.member, ← List.count_pos_iff]
  exact Nat.pos_iff_ne_zero.symm

section Lawful

variable [Std.LawfulEqOrd γ] [Std.LawfulEqOrd μ]

theorem Holds.unique {tally other : Tally γ μ} {uses : List (Keyed γ μ)}
    (holds : tally.Holds uses) (holds' : other.Holds uses) : tally = other :=
  ext fun group member => (holds group member).trans (holds' group member).symm

theorem count_changeAll_arrive (uses : List (Keyed γ μ)) (group : γ) (member : μ) :
    ∀ tally : Tally γ μ, (tally.changeAll true uses).count group member =
      tally.count group member + uses.count ⟨group, member⟩ := by
  induction uses with
  | nil =>
      intro tally
      rfl
  | cons use rest ih =>
      intro tally
      have step : (tally.changeAll true (use :: rest)) =
          (tally.add use.group use.member).changeAll true rest := rfl
      rw [step, ih, count_add, List.count_cons]
      obtain ⟨group', member'⟩ := use
      simp only [beq_iff_eq, Keyed.mk.injEq]
      omega

/-- Counts stop at zero. -/
theorem count_changeAll_leave (uses : List (Keyed γ μ)) (group : γ) (member : μ) :
    ∀ tally : Tally γ μ, (tally.changeAll false uses).count group member =
      tally.count group member - uses.count ⟨group, member⟩ := by
  induction uses with
  | nil =>
      intro tally
      rfl
  | cons use rest ih =>
      intro tally
      have step : (tally.changeAll false (use :: rest)) =
          (tally.remove use.group use.member).changeAll false rest := rfl
      rw [step, ih, count_remove, List.count_cons]
      obtain ⟨group', member'⟩ := use
      simp only [beq_iff_eq, Keyed.mk.injEq]
      omega

theorem Holds.arrive {tally : Tally γ μ} {uses : List (Keyed γ μ)} (holds : tally.Holds uses)
    (new : List (Keyed γ μ)) : (tally.changeAll true new).Holds (new ++ uses) := by
  intro group member
  rw [count_changeAll_arrive, holds group member, List.count_append]
  omega

/-- What leaves has arrived before, so no count stops at zero. -/
theorem Holds.leave {tally : Tally γ μ} {gone uses : List (Keyed γ μ)}
    (holds : tally.Holds (gone ++ uses)) : (tally.changeAll false gone).Holds uses := by
  intro group member
  rw [count_changeAll_leave, holds group member, List.count_append]
  omega

/-- A departure goes unnoticed exactly when nothing that leaves was counted. -/
theorem changeAll_leave_eq_self_iff {tally : Tally γ μ} {gone : List (Keyed γ μ)} :
    tally.changeAll false gone = tally ↔
      ∀ use ∈ gone, tally.count use.group use.member = 0 := by
  constructor
  · intro same use member
    have counted := count_changeAll_leave gone use.group use.member tally
    have present : 0 < gone.count use := List.count_pos_iff.2 member
    rw [same] at counted
    change tally.count use.group use.member =
      tally.count use.group use.member - gone.count use at counted
    omega
  · intro uncounted
    apply ext
    intro group member
    rw [count_changeAll_leave]
    by_cases here : (⟨group, member⟩ : Keyed γ μ) ∈ gone
    · have zero := uncounted _ here
      change tally.count group member = 0 at zero
      omega
    · rw [List.count_eq_zero_of_not_mem here]
      rfl

omit [DecidableEq μ] in
theorem mem_members_iff {tally : Tally γ μ} {group : γ} {member : μ} :
    member ∈ tally.members group ↔ tally.count group member ≠ 0 := by
  have stored : (⟨group, member⟩ : Keyed γ μ) ∈ tally.counts ↔ tally.count group member ≠ 0 := by
    have positive := tally.positive ⟨group, member⟩
    rw [Std.ExtTreeMap.mem_iff_isSome_getElem?, count, Std.ExtTreeMap.getD_eq_getD_getElem?]
    revert positive
    cases tally.counts[(⟨group, member⟩ : Keyed γ μ)]? <;> simp
  rw [← stored, members, List.mem_map]
  constructor
  · rintro ⟨⟨group', member'⟩, there, rfl⟩
    obtain ⟨key, same⟩ := List.mem_filter.1 there
    cases of_decide_eq_true same
    exact Std.ExtTreeMap.mem_keys.1 key
  · intro there
    exact ⟨⟨group, member⟩, List.mem_filter.2 ⟨Std.ExtTreeMap.mem_keys.2 there, by simp⟩, rfl⟩

/-- A tally that holds a list counts the members of the list. -/
theorem Holds.mem_members_iff {tally : Tally γ μ} {uses : List (Keyed γ μ)}
    (holds : tally.Holds uses) {group : γ} {member : μ} :
    member ∈ tally.members group ↔ (⟨group, member⟩ : Keyed γ μ) ∈ uses := by
  rw [Tally.mem_members_iff, ← holds.count_ne_zero_iff]

end Lawful

end UltraFabric.Tally
