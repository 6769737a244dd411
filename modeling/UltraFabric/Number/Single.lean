/-
# UltraFabric.Number.Single — numbers of single precision

A decimal text is read as the nearest number of the form `m · 2^e` with `m < 2^24` and `-149 ≤ e`,
ties going to the even `m`; from `2^128` on it is infinite. All arithmetic is exact, on natural
numbers: `roundDiv` rounds a quotient, `Single.ofRatio` finds the grid on which it has to round, and
`Single.toTenths` rounds the exact value once more, to one decimal place.
-/
import UltraFabric.Number.Whole

namespace UltraFabric.Number

set_option autoImplicit false

/-- The whole number nearest to `numerator / denominator`; a half goes to the even neighbour. -/
def roundDiv (numerator denominator : Nat) : Nat :=
  let quotient := numerator / denominator
  let remainder := numerator % denominator
  if 2 * remainder < denominator then quotient
  else if denominator < 2 * remainder then quotient + 1
  else quotient + quotient % 2

/-- A number of single precision, by its exact value. -/
inductive Single where
  | notANumber
  | infinite (negative : Bool)
  /-- The value `mantissa · 2^exponent`. -/
  | finite (negative : Bool) (mantissa : Nat) (exponent : Int)
  deriving DecidableEq, Repr

namespace Single

/-- `numerator / denominator` scaled by `2^shift`, again as a quotient. -/
def scale (numerator denominator : Nat) (shift : Int) : Nat × Nat :=
  if 0 ≤ shift then
    (numerator <<< shift.toNat, denominator)
  else
    (numerator, denominator <<< (-shift).toNat)

/-- The greatest `k` with `2^k ≤ numerator / denominator`, both positive. -/
def floorLog2 (numerator denominator : Nat) : Int :=
  let guess : Int := numerator.log2 - denominator.log2
  let (scaled, unit) := scale numerator denominator (-guess)
  if unit ≤ scaled then guess else guess - 1

/-- The number nearest to `numerator / denominator`. -/
def ofRatio (negative : Bool) (numerator denominator : Nat) : Single :=
  if numerator = 0 then
    .finite negative 0 0
  else
    let exponent := max (-149) (floorLog2 numerator denominator - 23)
    let (scaled, unit) := scale numerator denominator (-exponent)
    let mantissa := roundDiv scaled unit
    if 0 ≤ exponent ∧ 1 <<< 128 ≤ mantissa <<< exponent.toNat then
      .infinite negative
    else
      .finite negative mantissa exponent

/-- The number nearest to `digits · 10^exponent`.

A number with more than forty places before the point is beyond `2^128`, and one that starts more
than sixty places behind it is nearer to zero than to any other number; neither is multiplied out. -/
def ofDecimal (negative : Bool) (digits : Nat) (exponent : Int) : Single :=
  let places : Int := (Nat.toDigits 10 digits).length + exponent
  if digits = 0 then .finite negative 0 0
  else if 40 < places then .infinite negative
  else if places < -60 then .finite negative 0 0
  else if 0 ≤ exponent then ofRatio negative (digits * Nat.pow 10 exponent.toNat) 1
  else ofRatio negative digits (Nat.pow 10 (-exponent).toNat)

/-- The value of a run of decimal digits. -/
def digitsValue (digits : List Char) : Nat :=
  digits.foldl (fun value c => value * 10 + (c.toNat - '0'.toNat)) 0

/-- The exponent behind a mantissa: nothing, or `e`, an optional sign and digits. -/
def readExponent (text : List Char) : Option Int :=
  match text with
  | [] => some 0
  | mark :: rest =>
    if mark = 'e' ∨ mark = 'E' then
      let (negative, digits) : Bool × List Char :=
        match rest with
        | '-' :: digits => (true, digits)
        | '+' :: digits => (false, digits)
        | digits => (false, digits)
      if digits.isEmpty || ! digits.all Char.isDigit then none
      else if negative then some (- (digitsValue digits : Int))
      else some (digitsValue digits)
    else
      none

/-- A decimal number without its sign: digits with at most one point among them, at least one
digit, and an exponent. -/
def readDecimal (negative : Bool) (text : List Char) : Option Single :=
  let whole := text.takeWhile Char.isDigit
  let rest := text.dropWhile Char.isDigit
  let (places, rest) : List Char × List Char :=
    match rest with
    | '.' :: rest => (rest.takeWhile Char.isDigit, rest.dropWhile Char.isDigit)
    | rest => ([], rest)
  if whole.isEmpty && places.isEmpty then none
  else
    (readExponent rest).map fun exponent =>
      ofDecimal negative (digitsValue (whole ++ places)) (exponent - places.length)

/-- Reads an optional sign and then a decimal number or, in any case, one of the words for numbers
that are not finite. -/
def read (text : List Char) : Option Single :=
  let (negative, rest) : Bool × List Char :=
    match text with
    | '-' :: rest => (true, rest)
    | '+' :: rest => (false, rest)
    | rest => (false, rest)
  let word := rest.map Char.toLower
  if word = "inf".toList ∨ word = "infinity".toList then some (.infinite negative)
  else if word = "nan".toList then some .notANumber
  else readDecimal negative rest

/-- The tenths of `mantissa · 2^exponent`, rounded to a whole number of them. -/
def tenths (mantissa : Nat) (exponent : Int) : Nat :=
  let (scaled, unit) := scale (10 * mantissa) 1 exponent
  roundDiv scaled unit

/-- The text with one decimal place. -/
def toTenths : Single → String
  | .notANumber => "NaN"
  | .infinite negative => if negative then "-inf" else "inf"
  | .finite negative mantissa exponent =>
    let count := tenths mantissa exponent
    let digits := toString (count / 10) ++ "." ++ toString (count % 10)
    if negative then "-" ++ digits else digits

end Single

end UltraFabric.Number
