/-
# UltraFabric.Number.Double — numbers of double precision

A number of double precision is `mantissa · 2^exponent` with a mantissa of 53 bits and
`-1074 ≤ exponent`; it is finite up to `exponent = 971`. A decimal number is finite in double
precision when the nearest number of 53 bits is below `2^1024`; so everything from
`2^1024 - 2^970` on is not (`limit`). `isFinite` decides that for the exact value of a number.

The strict form of a document reads numbers less carefully (`ofLiteral?`). It takes as many leading
digits as fit 64 bits, and a power of ten for all others, and multiplies or divides the two after
rounding each of them. Close to the limit, and for long runs of digits, what comes out is not the
number nearest to what is written.
-/
import UltraFabric.Number.Single

namespace UltraFabric.Number

set_option autoImplicit false

/-- A number of double precision that is not negative, `mantissa · 2^exponent`. -/
structure Double where
  mantissa : Nat
  exponent : Int
  deriving DecidableEq, Repr

namespace Double

/-- The least size that is rounded away from all finite numbers. -/
def limit : Nat := (1 <<< 1024) - (1 <<< 970)

/-- Whether `digits · 10^exponent` is finite.

A number with fewer than three hundred places before the point is, one with more than 310 is not;
neither is multiplied out. -/
def isFinite (digits : Nat) (exponent : Int) : Bool :=
  let places : Int := (Nat.toDigits 10 digits).length + exponent
  if digits = 0 || places < 300 then true
  else if 310 < places then false
  else if 0 ≤ exponent then digits * Nat.pow 10 exponent.toNat < limit
  else digits < limit * Nat.pow 10 (-exponent).toNat

/-! ### Arithmetic -/

/-- The number nearest to `numerator / denominator`, with as many bits as there is room for. -/
def ofRatio (numerator denominator : Nat) : Double :=
  if numerator = 0 then ⟨0, 0⟩
  else
    let exponent := max (-1074) (Single.floorLog2 numerator denominator - 52)
    let (scaled, unit) := Single.scale numerator denominator (-exponent)
    let mantissa := roundDiv scaled unit
    if mantissa = 1 <<< 53 then ⟨1 <<< 52, exponent + 1⟩ else ⟨mantissa, exponent⟩

/-- The exact value as a quotient. -/
def ratio (x : Double) : Nat × Nat :=
  Single.scale x.mantissa 1 x.exponent

/-- The number nearest to a product. -/
def times (x y : Double) : Double :=
  ofRatio (x.ratio.1 * y.ratio.1) (x.ratio.2 * y.ratio.2)

/-- The number nearest to a quotient. -/
def dividedBy (x y : Double) : Double :=
  ofRatio (x.ratio.1 * y.ratio.2) (x.ratio.2 * y.ratio.1)

/-- The number nearest to a power of ten. -/
def power (places : Nat) : Double :=
  ofRatio (Nat.pow 10 places) 1

/-- The greatest exponent of ten whose power is finite. -/
def greatestPower : Nat := 308

/-- A number times a power of ten, if that is finite. -/
def timesPower? (x : Double) (places : Nat) : Option Double :=
  if x.mantissa = 0 then some x
  else if greatestPower < places then none
  else
    let product := x.times (power places)
    if product.exponent ≤ 971 then some product else none

/-- A number over a power of ten; one that is not finite is taken in several steps. -/
def overPower (x : Double) (places : Nat) : Double :=
  if x.mantissa = 0 then x
  else if greatestPower < places then
    overPower (x.dividedBy (power greatestPower)) (places - greatestPower)
  else x.dividedBy (power places)
termination_by places
decreasing_by simp_all [greatestPower]; omega

/-! ### Reading -/

/-- Reads digits after `value` while the number fits 64 bits; the digits that are left. -/
def leading (value : Nat) : List Char → Nat × List Char
  | [] => (value, [])
  | c :: rest =>
    let next := value * 10 + (c.toNat - '0'.toNat)
    if next < 1 <<< 64 then leading next rest else (value, c :: rest)

/-- The leading digits of a number and the power of ten behind them, put together. -/
def ofParts? (significand : Nat) (exponent : Int) : Option Double :=
  let digits := ofRatio significand 1
  if 0 ≤ exponent then digits.timesPower? exponent.toNat
  else some (digits.overPower (-exponent).toNat)

/-- What is read of a number that is well written, if it is not too large: whole digits, places
behind a point, and an exponent. Whether it has a minus sign stands first. -/
def ofLiteral? (text : List Char) : Option (Bool × Double) :=
  let (negative, text) : Bool × List Char :=
    match text with
    | '-' :: rest => (true, rest)
    | rest => (false, rest)
  let whole := text.takeWhile Char.isDigit
  let rest := text.dropWhile Char.isDigit
  let (places, rest) : List Char × List Char :=
    match rest with
    | '.' :: rest => (rest.takeWhile Char.isDigit, rest.dropWhile Char.isDigit)
    | rest => ([], rest)
  let (significand, dropped) := leading 0 whole
  let (significand, unused) := leading significand places
  let exponent : Int := dropped.length - (places.length - unused.length)
  (ofParts? significand (exponent + (Single.readExponent rest).getD 0)).map fun size =>
    (negative, size)

/-- Whether a number that is well written is too large to be kept. -/
def overflows (text : List Char) : Bool :=
  (ofLiteral? text).isNone

end Double

end UltraFabric.Number
