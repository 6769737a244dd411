/-
# UltraFabric.Number.Whole — reading whole numbers within bounds

A whole number is an optional sign and digits, and nothing else. It is read from left to right, and
the first thing that is wrong decides the error: a character that is no digit, or the digit with
which the number leaves its bounds.
-/
namespace UltraFabric.Number

set_option autoImplicit false

/-- Why a text is no whole number within the bounds. -/
inductive WholeError where
  | empty
  | invalidDigit
  | tooLarge
  | tooSmall
  deriving DecidableEq, Repr

def WholeError.message : WholeError → String
  | .empty => "cannot parse integer from empty string"
  | .invalidDigit => "invalid digit found in string"
  | .tooLarge => "number too large to fit in target type"
  | .tooSmall => "number too small to fit in target type"

/-- The values a number may take, and the base it is written in. -/
structure WholeFormat where
  least : Int
  greatest : Int
  base : Nat
  /-- Whether a minus sign may stand in front. -/
  signed : Bool

/-- Signed decimal numbers of 32 bits. -/
def signed32Bit : WholeFormat := ⟨-2147483648, 2147483647, 10, true⟩

/-- Signed decimal numbers of 64 bits. -/
def signed64Bit : WholeFormat := ⟨-9223372036854775808, 9223372036854775807, 10, true⟩

/-- Unsigned decimal numbers of 8 bits. -/
def unsigned8Bit : WholeFormat := ⟨0, 255, 10, false⟩

/-- Digits of base two whose value is a signed number of 64 bits. -/
def bits64 : WholeFormat := { signed64Bit with base := 2 }

/-- The value of a digit in a base of at most ten. -/
def digit? (base : Nat) (c : Char) : Option Nat :=
  if '0' ≤ c ∧ c.toNat < '0'.toNat + base then some (c.toNat - '0'.toNat) else none

/-- Reads digits after `value`, adding each of them. -/
def readUp (format : WholeFormat) (value : Int) : List Char → Except WholeError Int
  | [] => .ok value
  | c :: rest =>
    match digit? format.base c with
    | none => .error .invalidDigit
    | some digit =>
      let next := value * format.base + digit
      if next ≤ format.greatest then readUp format next rest else .error .tooLarge

/-- Reads digits after `value`, subtracting each of them. -/
def readDown (format : WholeFormat) (value : Int) : List Char → Except WholeError Int
  | [] => .ok value
  | c :: rest =>
    match digit? format.base c with
    | none => .error .invalidDigit
    | some digit =>
      let next := value * format.base - digit
      if format.least ≤ next then readDown format next rest else .error .tooSmall

/-- Reads a whole number within the bounds of `format`. -/
def readWhole (format : WholeFormat) (text : List Char) : Except WholeError Int :=
  match text with
  | [] => .error .empty
  | ['+'] => .error .invalidDigit
  | ['-'] => .error .invalidDigit
  | '+' :: rest => readUp format 0 rest
  | '-' :: rest => if format.signed then readDown format 0 rest else .error .invalidDigit
  | rest => readUp format 0 rest

end UltraFabric.Number
