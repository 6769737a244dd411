/-
# UltraFabric.Compressed.Blocks — the DEFLATE format

Compressed data is a sequence of blocks. A block holds bytes as they are, or symbols in prefix codes
that are fixed or told at its beginning. A symbol is a byte, the end of the block, or a repetition:
so many bytes again that were written some distance before.
-/
import UltraFabric.Compressed.PrefixCode

namespace UltraFabric.Compressed

set_option autoImplicit false

/-- Consecutive numbers that share a symbol: the least of them, and how many bits tell them apart. -/
structure Interval where
  least : Nat
  extraBits : Nat

/-- Intervals that follow each other, from their widths. -/
def intervals (least : Nat) : List Nat → List Interval
  | [] => []
  | extraBits :: rest => ⟨least, extraBits⟩ :: intervals (least + 1 <<< extraBits) rest

/-- The lengths of repetitions. The greatest has a symbol of its own. -/
def lengthIntervals : Array Interval :=
  (intervals 3 [0, 0, 0, 0, 0, 0, 0, 0, 1, 1, 1, 1, 2, 2, 2, 2, 3, 3, 3, 3, 4, 4, 4, 4, 5, 5, 5, 5] ++
    [Interval.mk 258 0]).toArray

/-- The distances of repetitions. -/
def distanceIntervals : Array Interval :=
  (intervals 1 [0, 0, 0, 0, 1, 1, 2, 2, 3, 3, 4, 4, 5, 5, 6, 6, 7, 7, 8, 8, 9, 9, 10, 10, 11, 11, 12,
    12, 13, 13]).toArray

/-- The number that a symbol of some intervals and the bits behind it stand for. -/
def readNumber (intervals : Array Interval) (symbol : Nat) : Take Nat := do
  let interval ← Take.present intervals[symbol]?
  return interval.least + (← Take.bits interval.extraBits)

/-- The two codes of a block. -/
structure Codes where
  /-- Bytes, the end of the block, and the lengths of repetitions. -/
  main : PrefixCode
  distances : PrefixCode

/-- The codes that need not be told. -/
def fixedCodes : Codes where
  main := .ofLengths
    (List.replicate 144 8 ++ List.replicate 112 9 ++ List.replicate 24 7 ++ List.replicate 8 8)
  distances := .ofLengths (List.replicate 30 5)

/-- Repeats the byte that stands `distance` before the end, so many times. -/
def copyBack (distance : Nat) : Nat → ByteArray → ByteArray
  | 0, output => output
  | count + 1, output =>
    copyBack distance count (output.push (output[output.size - distance]?.getD 0))

/-- Reads symbols up to the end of the block. Each takes a bit at least, so as many steps as there
are bits are enough. -/
def readSymbols (codes : Codes) : Nat → ByteArray → Take ByteArray
  | 0, _ => Take.fail
  | steps + 1, output => do
    let symbol ← codes.main.read
    if symbol < 256 then readSymbols codes steps (output.push symbol.toUInt8)
    else if symbol = 256 then return output
    else do
      let length ← readNumber lengthIntervals (symbol - 257)
      let distance ← readNumber distanceIntervals (← codes.distances.read)
      if output.size < distance then Take.fail
      else readSymbols codes steps (copyBack distance length output)

/-- Reads so many bytes as they are. -/
def readBytes : Nat → ByteArray → Take ByteArray
  | 0, output => pure output
  | count + 1, output => do readBytes count (output.push (← Take.bits 8).toUInt8)

/-- A block of bytes as they are: their number stands in front, and once more with all bits
inverted. -/
def readStored (output : ByteArray) : Take ByteArray := do
  Take.alignToByte
  let count ← Take.bits 16
  let check ← Take.bits 16
  if count + check = 65535 then readBytes count output else Take.fail

/-! ### Codes that are told -/

/-- The symbols of the code for lengths, in the order in which the lengths of their words stand. -/
def lengthSymbols : List Nat :=
  [16, 17, 18, 0, 8, 7, 9, 6, 10, 5, 11, 4, 12, 3, 13, 2, 14, 1, 15]

/-- The code for lengths: the first words of `lengthSymbols` are told, the others have none. -/
def readLengthCode (count : Nat) : Take PrefixCode := do
  let told ← (lengthSymbols.take count).mapM fun symbol => do return (symbol, ← Take.bits 3)
  return .ofLengths ((List.range 19).map fun symbol => (told.lookup symbol).getD 0)

/-- What a symbol of the code for lengths adds, given the lengths so far, the last one first. -/
def readRun (symbol : Nat) (lengths : List Nat) : Take (List Nat) := do
  match symbol with
  | 16 => return List.replicate (3 + (← Take.bits 2)) (← Take.present lengths.head?)
  | 17 => return List.replicate (3 + (← Take.bits 3)) 0
  | 18 => return List.replicate (11 + (← Take.bits 7)) 0
  | length => return [length]

/-- Reads lengths until there are as many as wanted, the last one first. -/
def readLengths (code : PrefixCode) (wanted : Nat) : Nat → List Nat → Take (List Nat)
  | 0, _ => Take.fail
  | steps + 1, lengths => do
    if lengths.length = wanted then return lengths
    else if wanted < lengths.length then Take.fail
    else readLengths code wanted steps ((← readRun (← code.read) lengths) ++ lengths)

/-- The codes that stand at the beginning of a block. -/
def readCodes : Take Codes := do
  let mainCount := 257 + (← Take.bits 5)
  let distanceCount := 1 + (← Take.bits 5)
  let code ← readLengthCode (4 + (← Take.bits 4))
  let wanted := mainCount + distanceCount
  let lengths := (← readLengths code wanted (wanted + 1) []).reverse
  return ⟨.ofLengths (lengths.take mainCount), .ofLengths (lengths.drop mainCount)⟩

/-! ### All blocks -/

/-- Reads one block. -/
def readBlock (output : ByteArray) : Take ByteArray := do
  match ← Take.bits 2 with
  | 0 => readStored output
  | 1 => readSymbols fixedCodes ((← Take.remaining) + 1) output
  | 2 => do
    let codes ← readCodes
    readSymbols codes ((← Take.remaining) + 1) output
  | _ => Take.fail

/-- Reads blocks up to the one that says it is the last. -/
def readBlocks : Nat → ByteArray → Take ByteArray
  | 0, _ => Take.fail
  | steps + 1, output => do
    let last ← Take.bit
    let output ← readBlock output
    if last = 1 then return output else readBlocks steps output

/-- Everything that compressed data stands for. -/
def readAll : Take ByteArray := do
  readBlocks ((← Take.remaining) + 1) ByteArray.empty

end UltraFabric.Compressed
