/-
# UltraFabric.Proofs.Collecting — passes over lists that may stop

A pass takes the items of a list one by one and stops at the first whose step has no answer.  Where
every step adds to what there is, a pass that comes to its end has added what belongs to each item, and
it comes to its end exactly when every step has an answer (`foldlM_eq_ok_iff`).  A pass that stops does
so for one of its steps (`exists_error_of_foldlM`).
-/
import Mathlib.Data.List.Basic

namespace UltraFabric.Collecting

set_option autoImplicit false

variable {ε σ α β : Type}

/-! ### Answers that are there -/

theorem exists_ok_of_isSome {answer : Except ε α} (succeeds : answer.toOption.isSome = true) :
    ∃ value, answer = .ok value := by
  cases answer with
  | error problem => cases succeeds
  | ok value => exact ⟨value, rfl⟩

/-- An answer that is there is what stands in the place of any default. -/
theorem eq_ok_of_isSome {answer : Except ε α} {default : α}
    (succeeds : answer.toOption.isSome = true) : answer = .ok (answer.toOption.getD default) := by
  cases answer with
  | error problem => cases succeeds
  | ok value => rfl

/-! ### Passes -/

theorem exists_mapM {f : α → Except ε β} {items : List α}
    (answers : ∀ item ∈ items, ∃ answer, f item = .ok answer) :
    ∃ all, items.mapM f = .ok all := by
  induction items with
  | nil => exact ⟨[], rfl⟩
  | cons item rest ih =>
      obtain ⟨⟨first, here⟩, later⟩ := List.forall_mem_cons.1 answers
      obtain ⟨others, there⟩ := ih later
      refine ⟨first :: others, ?_⟩
      rw [List.mapM_cons, here, there]
      rfl

theorem foldlM_congr {step step' : σ → α → Except ε σ} {items : List α}
    (same : ∀ item ∈ items, ∀ state, step state item = step' state item) :
    ∀ state, items.foldlM step state = items.foldlM step' state := by
  induction items with
  | nil => exact fun _ => rfl
  | cons item rest ih =>
      obtain ⟨here, later⟩ := List.forall_mem_cons.1 same
      intro state
      rw [List.foldlM_cons, List.foldlM_cons, here]
      exact congrArg _ (funext (ih later))

/-- When a pass stops, one of its steps does. -/
theorem exists_error_of_foldlM {step : σ → α → Except ε σ} {problem : ε} :
    ∀ {items : List α} {state : σ}, items.foldlM step state = .error problem →
      ∃ item ∈ items, ∃ between, step between item = .error problem := by
  intro items
  induction items with
  | nil =>
      intro state ended
      cases ended
  | cons item rest ih =>
      intro state ended
      rw [List.foldlM_cons] at ended
      cases first : step state item with
      | error problem' =>
          rw [first] at ended
          cases ended
          exact ⟨item, List.mem_cons_self, state, first⟩
      | ok between =>
          rw [first] at ended
          obtain ⟨other, member, later⟩ := ih ended
          exact ⟨other, List.mem_cons_of_mem _ member, later⟩

/-- **A pass that collects comes to its end exactly when every step has an answer**, and then it has
collected what belongs to each item. -/
theorem foldlM_eq_ok_iff {step : σ → α → Except ε σ} {collect : σ → List β → σ} {given : α → List β}
    {Known : α → Prop} (nothing : ∀ state, collect state [] = state)
    (both : ∀ state first later,
      collect state (first ++ later) = collect (collect state first) later)
    (steps : ∀ state item result, step state item = .ok result ↔
      Known item ∧ result = collect state (given item)) (items : List α) :
    ∀ state result, items.foldlM step state = .ok result ↔
      (∀ item ∈ items, Known item) ∧ result = collect state (items.flatMap given) := by
  induction items with
  | nil =>
      intro state result
      rw [List.flatMap_nil, nothing, and_iff_right (List.forall_mem_nil _)]
      exact ⟨fun ended => (Except.ok.inj ended).symm, fun same => congrArg Except.ok same.symm⟩
  | cons item rest ih =>
      intro state result
      rw [List.foldlM_cons, List.forall_mem_cons, List.flatMap_cons, both]
      cases first : step state item with
      | error problem =>
          have unknown : ¬ Known item := fun known => by
            rw [(steps state item _).2 ⟨known, rfl⟩] at first
            cases first
          exact iff_of_false (fun ended => by cases ended) fun all => unknown all.1.1
      | ok between =>
          obtain ⟨known, rfl⟩ := (steps state item between).1 first
          rw [and_iff_right known]
          exact ih _ result

end UltraFabric.Collecting
