/-
# UltraFabric.Shrinking — candidates that become fewer

Searches end because the candidates that are left become fewer with every step. The candidates are
the elements of a list that pass a test, and a step makes the test stricter: `length_filter_lt` says
that this leaves fewer of them when one that passed before does not pass any more.
-/
namespace UltraFabric

set_option autoImplicit false

namespace Shrinking

variable {α : Type} {test stricter : α → Bool}

theorem length_filter_le (implies : ∀ x, stricter x = true → test x = true) (xs : List α) :
    (xs.filter stricter).length ≤ (xs.filter test).length := by
  induction xs with
  | nil => exact Nat.le_refl _
  | cons y rest ih =>
      cases hs : stricter y with
      | true =>
          rw [List.filter_cons_of_pos hs, List.filter_cons_of_pos (implies y hs)]
          exact Nat.succ_le_succ ih
      | false =>
          rw [List.filter_cons_of_neg (by rw [hs]; exact Bool.false_ne_true)]
          cases ht : test y with
          | true =>
              rw [List.filter_cons_of_pos ht]
              exact Nat.le_succ_of_le ih
          | false =>
              rw [List.filter_cons_of_neg (by rw [ht]; exact Bool.false_ne_true)]
              exact ih

theorem length_filter_lt (implies : ∀ x, stricter x = true → test x = true) {x : α}
    {xs : List α} (there : x ∈ xs) (passed : test x = true) (fails : stricter x = false) :
    (xs.filter stricter).length < (xs.filter test).length := by
  induction xs with
  | nil => exact absurd there List.not_mem_nil
  | cons y rest ih =>
      rcases List.mem_cons.1 there with same | there
      · subst same
        rw [List.filter_cons_of_neg (by rw [fails]; exact Bool.false_ne_true),
          List.filter_cons_of_pos passed]
        exact Nat.lt_succ_of_le (length_filter_le implies rest)
      · cases hs : stricter y with
        | true =>
            rw [List.filter_cons_of_pos hs, List.filter_cons_of_pos (implies y hs)]
            exact Nat.succ_lt_succ (ih there)
        | false =>
            rw [List.filter_cons_of_neg (by rw [hs]; exact Bool.false_ne_true)]
            cases ht : test y with
            | true =>
                rw [List.filter_cons_of_pos ht]
                exact Nat.lt_succ_of_lt (ih there)
            | false =>
                rw [List.filter_cons_of_neg (by rw [ht]; exact Bool.false_ne_true)]
                exact ih there

end Shrinking

end UltraFabric
