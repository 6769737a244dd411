/-
# UltraFabric.Document.Word — what a word without quotes means

A word stands for nothing, for a truth value, for a number or for itself. Which of them it is follows
from its form alone when nothing particular is wanted (`meaning?`); where a number is wanted, only
its form as a number counts (`unsigned?`, `signed?`).

Whole numbers may be written in base sixteen, eight and two. Digits behind a zero are no number. A
whole number of more than 64 bits has no meaning, unless not even 128 bits are enough: then it is a
real number like any other. Numbers that are not finite in double precision are texts.
-/
import UltraFabric.Document
import UltraFabric.Number.Double

namespace UltraFabric.Document.Word

set_option autoImplicit false

def nullWords : List String := ["", "~", "null", "Null", "NULL"]
def trueWords : List String := ["true", "True", "TRUE"]
def falseWords : List String := ["false", "False", "FALSE"]

/-- The words for numbers that are not finite. -/
def specialNumbers : List String :=
  [".inf", ".Inf", ".INF", "+.inf", "+.Inf", "+.INF", "-.inf", "-.Inf", "-.INF",
    ".nan", ".NaN", ".NAN"]

/-- The truth value that a word stands for. -/
def bool? (word : String) : Option Bool :=
  if trueWords.contains word then some true
  else if falseWords.contains word then some false
  else none

/-! ### Whole numbers -/

/-- The value of a digit in base sixteen. -/
def hexValue? (c : Char) : Option Nat :=
  if c.isDigit then some (c.toNat - '0'.toNat)
  else if 'a' ≤ c ∧ c ≤ 'f' then some (c.toNat - 'a'.toNat + 10)
  else if 'A' ≤ c ∧ c ≤ 'F' then some (c.toNat - 'A'.toNat + 10)
  else none

/-- The value of digits in a base; none if there are no digits or one is not of the base. -/
def digits? (base : Nat) : List Char → Option Nat
  | [] => none
  | digits => digits.foldlM (fun value c =>
      match hexValue? c with
      | some digit => if digit < base then some (value * base + digit) else none
      | none => none) 0

/-- A word without its sign. -/
def withoutSign : List Char → List Char
  | '+' :: rest => rest
  | '-' :: rest => rest
  | rest => rest

/-- Digits behind a zero. -/
def isPadded (word : List Char) : Bool :=
  match withoutSign word with
  | '0' :: c :: rest => (c :: rest).all Char.isDigit
  | _ => false

/-- The size of a whole number, written without a sign. -/
def size? (digits : List Char) : Option Nat :=
  if isPadded digits then none
  else
    match digits with
    | '0' :: 'x' :: rest => digits? 16 rest
    | '0' :: 'o' :: rest => digits? 8 rest
    | '0' :: 'b' :: rest => digits? 2 rest
    | digits => digits? 10 digits

/-- A whole number without a minus sign. -/
def unsigned? (word : List Char) : Option Nat :=
  match word with
  | '+' :: rest => size? rest
  | rest => size? rest

/-- A whole number with any sign or none. -/
def signed? (word : List Char) : Option Int :=
  match word with
  | '-' :: rest => (size? rest).map fun size => - (size : Int)
  | rest => (unsigned? rest).map fun size => (size : Int)

/-! ### All words -/

/-- Whether a word is a finite decimal number, with or without places and exponent. -/
def isDecimal (word : List Char) : Bool :=
  let text := withoutSign word
  let whole := text.takeWhile Char.isDigit
  let rest := text.dropWhile Char.isDigit
  let (places, rest) : List Char × List Char :=
    match rest with
    | '.' :: rest => (rest.takeWhile Char.isDigit, rest.dropWhile Char.isDigit)
    | rest => ([], rest)
  if whole.isEmpty && places.isEmpty then false
  else
    match Number.Single.readExponent rest with
    | none => false
    | some exponent =>
      Number.Double.isFinite (Number.Single.digitsValue (whole ++ places))
        (exponent - places.length)

/-- A real number, or else a text. -/
def realOrText (word : String) : Document :=
  if specialNumbers.contains word || (! isPadded word.toList && isDecimal word.toList) then
    .real word
  else .text word

/-- Whether a whole number that does not fit 64 bits fits 128 bits, with or without a sign. -/
def isWide (value : Int) : Bool :=
  - (1 <<< 127 : Nat) ≤ value && value < (1 <<< 128 : Nat)

/-- What a word means; none if it cannot be kept. -/
def meaning? (word : String) : Option Document :=
  if nullWords.contains word then some .null
  else
    match bool? word, signed? word.toList with
    | some value, _ => some (.bool value)
    | none, some value =>
      if fitsInteger value then some (.int value)
      else if isWide value then none
      else some (realOrText word)
    | none, none => some (realOrText word)

end UltraFabric.Document.Word
