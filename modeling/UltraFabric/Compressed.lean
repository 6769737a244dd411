/-
# UltraFabric.Compressed — the gzip format

A compressed file has a header, compressed data, and a check at the end: a checksum of the contents
and their size. The header has ten bytes, of which the first three are always the same, and optional
parts that the fourth byte announces.
-/
import UltraFabric.Compressed.Blocks

namespace UltraFabric.Compressed

set_option autoImplicit false

/-- What comes out when bytes are taken for a compressed file. -/
inductive Outcome where
  | contents (bytes : ByteArray)
  /-- It begins like a compressed file but is not one, or it is too short to tell. -/
  | damaged
  /-- It does not begin like a compressed file. -/
  | foreign

/-- How many bytes of a header are always there. -/
def headerSize : Nat := 10

/-- The bytes with which a compressed file begins. -/
def signature : List UInt8 := [31, 139, 8]

/-! ### Checksum -/

/-- Takes one bit into a checksum: the remainder of a division of polynomials with the least bit
first. -/
def checksumBit (sum : UInt32) : UInt32 :=
  if sum % 2 = 1 then (sum / 2) ^^^ 0xEDB88320 else sum / 2

def checksumByte (sum : UInt32) (byte : UInt8) : UInt32 :=
  Nat.repeat checksumBit 8 (sum ^^^ byte.toUInt32)

/-- The checksum of the contents. -/
def checksum (bytes : ByteArray) : UInt32 :=
  bytes.foldl checksumByte 0xFFFFFFFF ^^^ 0xFFFFFFFF

/-! ### Parts of a file -/

/-- Skips so many bytes. -/
def skipBytes (count : Nat) : Take Unit :=
  modify fun cursor => { cursor with position := cursor.position + 8 * count }

/-- Skips a text that a zero byte ends. -/
def skipText : Nat → Take Unit
  | 0 => Take.fail
  | steps + 1 => do
    if (← Take.bits 8) = 0 then return else skipText steps

/-- Skips the header, its optional parts included. -/
def skipHeader : Take Unit := do
  skipBytes 3
  let parts ← Take.bits 8
  skipBytes 6
  if parts.testBit 2 then skipBytes (← Take.bits 16)
  if parts.testBit 3 then skipText (← Take.remaining)
  if parts.testBit 4 then skipText (← Take.remaining)
  if parts.testBit 1 then skipBytes 2

/-- Reads a whole file, from its header to the check at its end. -/
def readFile : Take ByteArray := do
  skipHeader
  let contents ← readAll
  Take.alignToByte
  let sum ← Take.bits 32
  let size ← Take.bits 32
  if sum = (checksum contents).toNat && size = contents.size % 4294967296 then return contents
  else Take.fail

/-- Takes bytes for a compressed file. -/
def expand (bytes : ByteArray) : Outcome :=
  if bytes.size < headerSize then .damaged
  else if (bytes.extract 0 3).toList ≠ signature then .foreign
  else
    match readFile.run ⟨bytes, 0⟩ with
    | some (contents, _) => .contents contents
    | none => .damaged

end UltraFabric.Compressed
