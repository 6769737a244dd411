/-
# UltraFabric.Lexicon — names numbered in order of first mention

A design speaks of cells, nets, ports and tiles by name. Two of its answers depend on the order in
which names were first mentioned: the order of the users of a net, and the order in which the clock
nets of a lobe ask for buffers. A `Lexicon` keeps that order: the number of a name is the count of
names mentioned before it.

`Lexicon.agree` is the invariant: the two halves of a lexicon are inverse to each other. The lemmas
below say what one mention does to both halves.
-/
import Std.Data.ExtTreeMap

namespace UltraFabric

set_option autoImplicit false

/-- A name of a cell, net, port, tile, wire or type. -/
abbrev Name := String

/-- Names with their numbers. The two halves are inverse to each other. -/
structure Lexicon where
  numbers : Std.ExtTreeMap Name Nat
  names : Array Name
  agree : ∀ (name : Name) (number : Nat),
    numbers[name]? = some number ↔ names[number]? = some name

namespace Lexicon

/-- The lexicon in which only the empty name has been mentioned. -/
def fresh : Lexicon where
  numbers := (∅ : Std.ExtTreeMap Name Nat).insert "" 0
  names := #[""]
  agree := by
    intro name number
    rw [Std.ExtTreeMap.getElem?_insert]
    by_cases h : name = ""
    · subst h
      cases number <;> simp
    · have hne : ¬ "" = name := fun e => h e.symm
      cases number <;> simp [hne]

/-- How many names have been mentioned. -/
def size (lexicon : Lexicon) : Nat :=
  lexicon.names.size

def number? (lexicon : Lexicon) (name : Name) : Option Nat :=
  lexicon.numbers[name]?

def name? (lexicon : Lexicon) (number : Nat) : Option Name :=
  lexicon.names[number]?

theorem number?_eq_some_iff {lexicon : Lexicon} {name : Name} {number : Nat} :
    lexicon.number? name = some number ↔ lexicon.name? number = some name :=
  lexicon.agree name number

/-- Adds a name that has not been mentioned: it gets the next number. -/
def append (lexicon : Lexicon) (name : Name) (absent : lexicon.number? name = none) :
    Lexicon where
  numbers := lexicon.numbers.insert name lexicon.names.size
  names := lexicon.names.push name
  agree := by
    intro other number
    simp only [Std.ExtTreeMap.getElem?_insert, Array.getElem?_push,
      Std.LawfulEqCmp.compare_eq_iff_eq]
    by_cases hname : name = other
    · subst hname
      by_cases hnumber : number = lexicon.names.size
      · simp [hnumber]
      · have hne : ¬ lexicon.names.size = number := fun e => hnumber e.symm
        simp only [if_true, Option.some.injEq, hne, hnumber, if_false, false_iff]
        intro h
        have := (lexicon.agree name number).2 h
        simp only [number?] at absent
        simp [absent] at this
    · by_cases hnumber : number = lexicon.names.size
      · subst hnumber
        simp only [hname, if_false, if_true, Option.some.injEq, iff_false]
        intro h
        have := (lexicon.agree other lexicon.names.size).1 h
        simp at this
      · simp only [hname, hnumber, if_false]
        exact lexicon.agree other number

/-- The number of a name, mentioning it if it is new. -/
def intern (lexicon : Lexicon) (name : Name) : Nat × Lexicon :=
  match known : lexicon.number? name with
  | some number => (number, lexicon)
  | none => (lexicon.size, lexicon.append name known)

/-- The lexicon after a mention of `name`. -/
def mention (lexicon : Lexicon) (name : Name) : Lexicon :=
  (lexicon.intern name).2

def mentionAll (lexicon : Lexicon) (names : List Name) : Lexicon :=
  names.foldl mention lexicon

/-- The number of a name; names never mentioned come after all others. -/
def rank (lexicon : Lexicon) (name : Name) : Nat :=
  (lexicon.number? name).getD lexicon.size

/-- Orders names by first mention, and those never mentioned among themselves by their text. -/
def compareNames (lexicon : Lexicon) (a b : Name) : Ordering :=
  (compare (lexicon.rank a) (lexicon.rank b)).then (compare a b)

/-- Names in order of first mention. -/
def sort (lexicon : Lexicon) (names : List Name) : List Name :=
  names.mergeSort fun a b => (lexicon.compareNames a b).isLE

theorem intern_of_known {lexicon : Lexicon} {name : Name} {number : Nat}
    (h : lexicon.number? name = some number) : lexicon.intern name = (number, lexicon) := by
  unfold intern
  split <;> simp_all

theorem intern_of_new {lexicon : Lexicon} {name : Name} (h : lexicon.number? name = none) :
    lexicon.intern name = (lexicon.size, lexicon.append name h) := by
  unfold intern
  split <;> simp_all

end Lexicon

end UltraFabric
