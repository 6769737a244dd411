/-
# UltraFabric.Tally — counting with a map

A tally counts members of groups. Only positive counts are stored, so two tallies with the same
counts are equal (`Tally.ext`). Taking away what is not there changes nothing.
-/
import Std.Data.ExtTreeMap

namespace UltraFabric

set_option autoImplicit false

/-- A member of a group. -/
structure Keyed (γ μ : Type) where
  group : γ
  member : μ
  deriving DecidableEq, Repr

namespace Keyed

variable {γ μ : Type} [Ord γ] [Ord μ]

instance : Ord (Keyed γ μ) where
  compare := compareLex (compareOn Keyed.group) (compareOn Keyed.member)

instance [Std.TransOrd γ] [Std.TransOrd μ] : Std.TransOrd (Keyed γ μ) :=
  inferInstanceAs (Std.TransCmp (compareLex (compareOn Keyed.group) (compareOn Keyed.member)))

instance [Std.TransOrd γ] [Std.TransOrd μ] [Std.LawfulEqOrd γ] [Std.LawfulEqOrd μ] :
    Std.LawfulEqOrd (Keyed γ μ) where
  eq_of_compare := by
    rintro ⟨group, member⟩ ⟨group', member'⟩ h
    have h : (compare group group').then (compare member member') = .eq := h
    rw [Ordering.then_eq_eq] at h
    simp only [Std.LawfulEqCmp.compare_eq_iff_eq] at h
    simp [h.1, h.2]

end Keyed

/-- Positive counts of members of groups. -/
structure Tally (γ μ : Type) [Ord γ] [Ord μ] [Std.TransOrd γ] [Std.TransOrd μ] where
  counts : Std.ExtTreeMap (Keyed γ μ) Nat
  positive : ∀ key : Keyed γ μ, counts[key]? ≠ some 0

namespace Tally

variable {γ μ : Type} [Ord γ] [Ord μ] [Std.TransOrd γ] [Std.TransOrd μ]

def empty : Tally γ μ := ⟨∅, by simp⟩

def count (tally : Tally γ μ) (group : γ) (member : μ) : Nat :=
  tally.counts.getD ⟨group, member⟩ 0

/-- Stores a positive count. -/
def set (tally : Tally γ μ) (key : Keyed γ μ) (count : Nat) (h : count ≠ 0) : Tally γ μ where
  counts := tally.counts.insert key count
  positive := by
    intro other
    rw [Std.ExtTreeMap.getElem?_insert]
    split
    · simp [h]
    · exact tally.positive other

def forget (tally : Tally γ μ) (key : Keyed γ μ) : Tally γ μ where
  counts := tally.counts.erase key
  positive := by
    intro other
    rw [Std.ExtTreeMap.getElem?_erase]
    split
    · simp
    · exact tally.positive other

def add (tally : Tally γ μ) (group : γ) (member : μ) : Tally γ μ :=
  tally.set ⟨group, member⟩ (tally.count group member + 1) (Nat.succ_ne_zero _)

/-- Takes one away; a count that becomes zero is forgotten. -/
def remove (tally : Tally γ μ) (group : γ) (member : μ) : Tally γ μ :=
  if h : tally.count group member ≤ 1 then tally.forget ⟨group, member⟩
  else tally.set ⟨group, member⟩ (tally.count group member - 1) (by omega)

/-- The members of a group that are counted. -/
def members [DecidableEq γ] (tally : Tally γ μ) (group : γ) : List μ :=
  (tally.counts.keys.filter (·.group = group)).map Keyed.member

theorem count_empty (group : γ) (member : μ) : (empty : Tally γ μ).count group member = 0 := by
  simp [empty, count]

section Lawful

variable [Std.LawfulEqOrd γ] [Std.LawfulEqOrd μ]

/-- Tallies with the same counts are equal. -/
theorem ext {a b : Tally γ μ} (h : ∀ group member, a.count group member = b.count group member) :
    a = b := by
  obtain ⟨counts, positive⟩ := a
  obtain ⟨counts', positive'⟩ := b
  have : counts = counts' := by
    apply Std.ExtTreeMap.ext_getElem?
    rintro ⟨group, member⟩
    have hcount := h group member
    have hp := positive ⟨group, member⟩
    have hp' := positive' ⟨group, member⟩
    simp only [count, Std.ExtTreeMap.getD_eq_getD_getElem?] at hcount
    revert hcount hp hp'
    cases counts[(⟨group, member⟩ : Keyed γ μ)]? <;>
      cases counts'[(⟨group, member⟩ : Keyed γ μ)]? <;> (simp; try omega)
  subst this
  rfl

variable [DecidableEq γ] [DecidableEq μ]

theorem count_add (tally : Tally γ μ) (group other : γ) (member another : μ) :
    (tally.add group member).count other another =
      tally.count other another + if group = other ∧ member = another then 1 else 0 := by
  by_cases h : group = other ∧ member = another
  · obtain ⟨rfl, rfl⟩ := h
    simp [add, set, count]
  · have hne : ¬ (⟨group, member⟩ : Keyed γ μ) = ⟨other, another⟩ := by
      intro e
      injection e with e₁ e₂
      exact h ⟨e₁, e₂⟩
    simp [add, set, count, Std.ExtTreeMap.getD_insert, hne, h]

theorem count_remove (tally : Tally γ μ) (group other : γ) (member another : μ) :
    (tally.remove group member).count other another =
      tally.count other another - if group = other ∧ member = another then 1 else 0 := by
  by_cases h : group = other ∧ member = another
  · obtain ⟨rfl, rfl⟩ := h
    unfold remove
    split
    · have hzero : (tally.forget ⟨group, member⟩).count group member = 0 := by
        simp [forget, count]
      simp only [and_self, if_true]
      omega
    · simp [set, count]
  · have hne : ¬ (⟨group, member⟩ : Keyed γ μ) = ⟨other, another⟩ := by
      intro e
      injection e with e₁ e₂
      exact h ⟨e₁, e₂⟩
    unfold remove
    rw [if_neg h]
    split <;>
      simp [set, forget, count, Std.ExtTreeMap.getD_insert, Std.ExtTreeMap.getD_erase, hne]

end Lawful

end Tally

end UltraFabric
