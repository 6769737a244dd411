/-
# UltraFabric.Property — values of cell parameters

A parameter is a whole number, a truth value or a text. Each can be asked for as any other, because
tools write them loosely: a text of `0` and `1` is also a number in base two, and a number is true
when it is not zero. `bitsFromLeast` gives the bits of a parameter, least first, as many as asked
for; numbers are seen in two's complement of 64 bits.
-/
import UltraFabric.Number.Whole
import UltraFabric.Document.Keeping
import UltraFabric.Document.Reader

namespace UltraFabric

set_option autoImplicit false

inductive Property where
  | int (value : Int)
  | bool (value : Bool)
  | text (value : String)
  deriving DecidableEq, Repr

namespace Property

def asText : Property → String
  | .int value => toString value
  | .bool value => if value then "true" else "false"
  | .text value => value

/-- Whether a text consists of `0` and `1` only. -/
def isBits (value : List Char) : Bool :=
  value.all fun c => c = '0' || c = '1'

def asInt? : Property → Option Int
  | .int value => some value
  | .bool value => some (if value then 1 else 0)
  | .text value =>
    let format :=
      if ! value.isEmpty && isBits value.toList then Number.bits64 else Number.signed64Bit
    (Number.readWhole format value.toList).toOption

def asBool? : Property → Option Bool
  | .bool value => some value
  | .text "true" => some true
  | .text "false" => some false
  | other => other.asInt?.map (· ≠ 0)

/-- Bit `i` of a number in two's complement of 64 bits. -/
def bitOfInt (value : Int) (i : Nat) : Char :=
  if (value % 18446744073709551616).toNat.testBit i then '1' else '0'

/-- Bit `i` of a text of bits, the least one last. -/
def bitOfText (value : List Char) (i : Nat) : Char :=
  value.reverse[i]?.getD '0'

/-- The lowest `count` bits, the least one first. -/
def bitsFromLeast (property : Property) (count : Nat) : String :=
  let bit : Nat → Char :=
    match property with
    | .text value =>
      if isBits value.toList then bitOfText value.toList
      else bitOfInt (property.asInt?.getD 0)
    | _ => bitOfInt (property.asInt?.getD 0)
  String.ofList ((List.range count).map bit)

/-- A whole number of 64 bits with a sign, a truth value or a text; a word is what it means. -/
def read (document : Document) : Reader Property := do
  match ← Reader.orFail (document.keep? 0) with
  | .bool value => pure (.bool value)
  | .text value => pure (.text value)
  | document =>
    return .int (← Reader.int (-9223372036854775808) 9223372036854775807 document)

def toDocument : Property → Document
  | .int value => .int value
  | .bool value => .bool value
  | .text value => .text value

end Property

end UltraFabric
