/-
# UltraFabric.Proofs.Interning — what the number of a name is good for

Everything else compares names by their numbers, so a number must not drift. Whatever is mentioned
before, between and after two questions, the two answers are the same number exactly when the two
names are the same, and a number that was once given out leads back to its name for good.

One mention either changes nothing or puts a new name behind all others (`names_intern`), and what
has a number keeps it (`number?_intern_of_known`). By induction on what is mentioned, the names are
then in the order of their first mention, each of them once (`names_mentionAll`), so that the number
of a name is its place in that order.
-/
import Mathlib.Data.List.Basic
import UltraFabric.Lexicon

namespace UltraFabric

set_option autoImplicit false

namespace Lexicon

variable {lexicon : Lexicon} {name other : Name} {number : Nat}

/-- The number of a name is its place among the names. -/
theorem number?_of_mem (listed : name ∈ lexicon.names.toList) :
    lexicon.number? name = some (lexicon.names.toList.idxOf name) := by
  apply number?_eq_some_iff.2
  rw [name?, ← Array.getElem?_toList]
  exact List.getElem?_idxOf listed

theorem mem_of_number? (known : lexicon.number? name = some number) :
    name ∈ lexicon.names.toList := by
  have placed := number?_eq_some_iff.1 known
  rw [name?, ← Array.getElem?_toList] at placed
  exact List.mem_of_getElem? placed

/-- No two names have one number. -/
theorem eq_of_number? (known : lexicon.number? name = some number)
    (known' : lexicon.number? other = some number) : name = other := by
  have placed := number?_eq_some_iff.1 known
  rw [number?_eq_some_iff.1 known'] at placed
  exact (Option.some.inj placed).symm

/-! ### One mention -/

/-- A known name leaves the names alone, and a new one comes behind all others. -/
theorem names_intern (lexicon : Lexicon) (name : Name) :
    (lexicon.intern name).2.names.toList =
      if name ∈ lexicon.names.toList then lexicon.names.toList
      else lexicon.names.toList ++ [name] := by
  cases known : lexicon.number? name with
  | some number => rw [intern_of_known known, if_pos (mem_of_number? known)]
  | none =>
      have unlisted : name ∉ lexicon.names.toList := fun listed => by
        simp [number?_of_mem listed] at known
      rw [intern_of_new known, if_neg unlisted]
      simp [append]

/-- The answer is what the lexicon says of the name from then on. -/
theorem number?_intern (lexicon : Lexicon) (name : Name) :
    (lexicon.intern name).2.number? name = some (lexicon.intern name).1 := by
  cases known : lexicon.number? name with
  | some number => rw [intern_of_known known, known]
  | none =>
      rw [intern_of_new known]
      simp [append, number?, size]

/-- The answer is the place of the name, which for a new name is the one behind all others. -/
theorem fst_intern (lexicon : Lexicon) (name : Name) :
    (lexicon.intern name).1 = lexicon.names.toList.idxOf name := by
  cases known : lexicon.number? name with
  | some number =>
      have placed := number?_of_mem (mem_of_number? known)
      exact congrArg Prod.fst (intern_of_known placed)
  | none =>
      have unlisted : name ∉ lexicon.names.toList := fun listed => by
        simp [number?_of_mem listed] at known
      rw [intern_of_new known, List.idxOf_eq_length unlisted]
      exact Array.length_toList.symm

theorem number?_intern_of_known (known : lexicon.number? name = some number) :
    (lexicon.intern other).2.number? name = some number := by
  cases asked : lexicon.number? other with
  | some _ => rwa [intern_of_known asked]
  | none =>
      have ne : other ≠ name := by
        rintro rfl
        simp [known] at asked
      rw [intern_of_new asked]
      simpa [append, number?, Std.ExtTreeMap.getElem?_insert, ne] using known

/-! ### Any number of mentions -/

theorem number?_mentionAll (names : List Name) (known : lexicon.number? name = some number) :
    (lexicon.mentionAll names).number? name = some number := by
  induction names generalizing lexicon with
  | nil => exact known
  | cons mentioned rest ih => exact ih (number?_intern_of_known known)

/-- Behind the names that were there come the new ones, each where it is mentioned first. -/
theorem names_mentionAll (lexicon : Lexicon) (names : List Name) :
    (lexicon.mentionAll names).names.toList =
      lexicon.names.toList ++ (names.removeAll lexicon.names.toList).eraseDups := by
  induction names generalizing lexicon with
  | nil => simp [mentionAll, List.removeAll]
  | cons name rest ih =>
      have step : lexicon.mentionAll (name :: rest) = (lexicon.mention name).mentionAll rest := rfl
      rw [step, ih, mention, names_intern]
      by_cases listed : name ∈ lexicon.names.toList
      · simp only [if_pos listed]
        simp [List.cons_removeAll, Array.mem_toList_iff.1 listed]
      · rw [if_neg listed, List.cons_removeAll, if_pos (by simpa using listed),
          List.eraseDups_cons, List.append_assoc, List.singleton_append]
        -- what is left of `rest` drops the old names and `name`, in one filter or in two
        simp [List.removeAll, List.filter_filter, Bool.and_comm, Bool.beq_eq_decide_eq]

/-- The names of a lexicon, in the order in which each was used first. -/
theorem names_fresh_mentionAll (names : List Name) :
    (fresh.mentionAll names).names.toList = ("" :: names).eraseDups := by
  rw [names_mentionAll, List.eraseDups_cons]
  simp [fresh, List.removeAll, Bool.beq_eq_decide_eq]

/-- Every mention adds one name at most. -/
theorem length_mentionAll_le (lexicon : Lexicon) (names : List Name) :
    (lexicon.mentionAll names).names.toList.length ≤ lexicon.names.toList.length + names.length := by
  induction names generalizing lexicon with
  | nil => exact Nat.le_refl _
  | cons name rest ih =>
      have one : (lexicon.mention name).names.toList.length ≤ lexicon.names.toList.length + 1 := by
        rw [mention, names_intern]
        split
        · exact Nat.le_succ _
        · exact Nat.le_of_eq List.length_append
      have step : lexicon.mentionAll (name :: rest) = (lexicon.mention name).mentionAll rest := rfl
      rw [step, List.length_cons]
      exact Nat.le_trans (ih _) (by omega)

/-- The number of a name fits into 32 bits while the names used before it, with the empty one, are fewer
than 32 bits can number. -/
theorem fst_intern_lt {before : List Name} (few : before.length + 1 < 4294967296) (name : Name) :
    ((fresh.mentionAll before).intern name).1 < 4294967296 := by
  have most := length_mentionAll_le fresh before
  rw [fst_intern]
  exact Nat.lt_of_le_of_lt (Nat.le_trans List.idxOf_le_length most)
    (by simpa [fresh, Nat.add_comm] using few)

/-- Whatever is asked before, between and after: two names get one number only if they are the same
name, a number keeps leading to its name, the number zero is that of the empty name alone, and a
number is the place of its name in the order of first use, so a new name gets the next one.  Numbers have
no bound here; that they fit where they are stored is `fst_intern_lt`. -/
theorem intern_bijective (before between : List Name) (name other : Name) :
    let asked := fresh.mentionAll before
    let first := asked.intern name
    let later := first.2.mentionAll between
    let second := later.intern other
    (first.1 = second.1 ↔ name = other) ∧
      later.name? first.1 = some name ∧
      (first.1 = 0 ↔ name = "") ∧
      asked.names.toList = ("" :: before).eraseDups ∧
      first.1 = asked.names.toList.idxOf name ∧
      (name ∉ "" :: before → first.1 = asked.size) := by
  intro asked first later second
  have order : asked.names.toList = ("" :: before).eraseDups := names_fresh_mentionAll before
  have place : first.1 = asked.names.toList.idxOf name := fst_intern asked name
  have first_later : later.number? name = some first.1 :=
    number?_mentionAll between (number?_intern asked name)
  have first_last : second.2.number? name = some first.1 := number?_intern_of_known first_later
  have second_last : second.2.number? other = some second.1 := number?_intern later other
  have empty_asked : asked.number? "" = some 0 :=
    number?_mentionAll before (by simp [fresh, number?])
  have empty_last : second.2.number? "" = some 0 :=
    number?_intern_of_known (number?_mentionAll between (number?_intern_of_known empty_asked))
  refine ⟨⟨fun same => ?_, fun same => ?_⟩, number?_eq_some_iff.1 first_later,
    ⟨fun zero => ?_, fun empty => ?_⟩, order, place, fun new => ?_⟩
  · exact eq_of_number? first_last (same ▸ second_last)
  · subst same
    exact Option.some.inj (first_last.symm.trans second_last)
  · exact eq_of_number? first_last (zero ▸ empty_last)
  · subst empty
    exact Option.some.inj (first_last.symm.trans empty_last)
  · rw [place, List.idxOf_eq_length (by rw [order, List.mem_eraseDups]; exact new)]
    exact Array.length_toList

end Lexicon

end UltraFabric
