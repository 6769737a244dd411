/-
# UltraFabric.Number.Shortest — numbers of double precision in decimal digits

A number of double precision is written with the fewest digits that are read back as it, and among
those with the ones nearest to it. The decimals that are read back are those nearer to it than to
its neighbours (`Double.isReadFrom`); a decimal half way belongs to the number with the even
mantissa. `Double.shortest` tries one power of ten after the other, the greatest first: as the grids
lie in each other, the first decimal that is found has the fewest digits, and no zero at its end.

Seventeen digits are always enough. Were they not, the exact value would be written.
-/
import UltraFabric.Number.Double

namespace UltraFabric.Number

set_option autoImplicit false

/-- The value `digits · 10^exponent`. -/
structure Decimal where
  digits : Nat
  exponent : Int
  deriving DecidableEq, Repr

namespace Decimal

/-- The value as a quotient. -/
def ratio (decimal : Decimal) : Nat × Nat :=
  if 0 ≤ decimal.exponent then (decimal.digits * Nat.pow 10 decimal.exponent.toNat, 1)
  else (decimal.digits, Nat.pow 10 (-decimal.exponent).toNat)

/-- The digits around a point, at least one on either side. -/
def positional (digits : List Char) (exponent : Int) : List Char :=
  if 0 ≤ exponent then digits ++ List.replicate exponent.toNat '0' ++ ['.', '0']
  else
    let places := (-exponent).toNat
    let digits := List.replicate (places + 1 - digits.length) '0' ++ digits
    digits.take (digits.length - places) ++ '.' :: digits.drop (digits.length - places)

/-- One digit before the point, and the power of ten that it stands for, with its sign. -/
def scientific (digits : List Char) (first : Int) : List Char :=
  let fraction := if digits.length ≤ 1 then [] else '.' :: digits.drop 1
  let sign := if first < 0 then '-' else '+'
  digits.take 1 ++ fraction ++ 'e' :: sign :: Nat.toDigits 10 first.natAbs

/-- The text of a decimal. A point stands in it if its first digit stands for `10^-5` up to `10^15`,
otherwise the power of ten is written out. -/
def toText (decimal : Decimal) : List Char :=
  let digits := Nat.toDigits 10 decimal.digits
  let first : Int := digits.length - 1 + decimal.exponent
  if -5 ≤ first && first ≤ 15 then positional digits decimal.exponent
  else scientific digits first

end Decimal

namespace Double

/-- Whether a decimal is read as a number: whether it is nearer to it than to the numbers next to it.
Below a power of two the numbers are twice as close. -/
def isReadFrom (x : Double) (decimal : Decimal) : Bool :=
  let below := if x.mantissa = 1 <<< 52 ∧ -1074 < x.exponent then 1 else 2
  let (least, unit) := Single.scale (4 * x.mantissa - below) 1 (x.exponent - 2)
  let (greatest, _) := Single.scale (4 * x.mantissa + 2) 1 (x.exponent - 2)
  let (value, divisor) := decimal.ratio
  if x.mantissa % 2 = 0 then
    least * divisor ≤ value * unit && value * unit ≤ greatest * divisor
  else
    least * divisor < value * unit && value * unit < greatest * divisor

/-- The decimals with an exponent that are next to a number, first the nearest of them. -/
def neighbours (x : Double) (exponent : Int) : List Decimal :=
  let (scaled, unit) := (Decimal.mk x.ratio.1 (-exponent)).ratio
  let unit := unit * x.ratio.2
  [roundDiv scaled unit, scaled / unit, scaled / unit + 1].map (⟨·, exponent⟩)

/-- The exponent of a power of ten that is not below a number. -/
def decimalBound (x : Double) : Int :=
  (x.mantissa.log2 + 1 + x.exponent) * 30103 / 100000 + 1

/-- The number with all its digits. -/
def allDigits (x : Double) : Decimal :=
  if 0 ≤ x.exponent then ⟨x.mantissa <<< x.exponent.toNat, 0⟩
  else ⟨x.mantissa * Nat.pow 5 (-x.exponent).toNat, x.exponent⟩

/-- The decimal with the fewest digits that is read as a number. -/
def shortest (x : Double) : Decimal :=
  if x.mantissa = 0 then ⟨0, 0⟩
  else
    ((List.range 20).findSome? fun (step : Nat) =>
      (x.neighbours (x.decimalBound - step)).find? x.isReadFrom).getD x.allDigits

/-- A decimal that leaves digits out is read as the number all the same. -/
theorem isReadFrom_shortest {x : Double} (h : x.mantissa ≠ 0) (short : x.shortest ≠ x.allDigits) :
    x.isReadFrom x.shortest := by
  rw [shortest, if_neg h] at short ⊢
  cases found : (List.range 20).findSome? fun (step : Nat) =>
      (x.neighbours (x.decimalBound - step)).find? x.isReadFrom with
  | none =>
      rw [found] at short
      exact absurd rfl short
  | some decimal =>
      obtain ⟨_, _, among⟩ := List.exists_of_findSome?_eq_some found
      exact List.find?_some among

end Double

/-- A number that is well written, written again in double precision. -/
def inDouble? (text : List Char) : Option (List Char) :=
  (Double.ofLiteral? text).map fun (negative, size) =>
    let digits := size.shortest.toText
    if negative then '-' :: digits else digits

end UltraFabric.Number
