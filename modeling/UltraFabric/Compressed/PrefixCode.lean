/-
# UltraFabric.Compressed.PrefixCode — codes that follow from their lengths

A prefix code gives each symbol a word of bits, none of which begins another. It is told by the
lengths of its words alone: words of one length are consecutive numbers in the order of their
symbols, and the first word of a length comes right after all shorter ones.
-/
import UltraFabric.Compressed.Bits

namespace UltraFabric.Compressed

set_option autoImplicit false

structure PrefixCode where
  /-- How many words have one bit, two bits, and so on. -/
  counts : List Nat
  /-- The symbols in the order of their words. -/
  symbols : Array Nat

namespace PrefixCode

def longestWord : Nat := 15

/-- The symbols, numbered from zero, whose words have some length. -/
def symbolsOfLength (lengths : List Nat) (length : Nat) : List Nat :=
  (lengths.zipIdx.filter (·.1 = length)).map Prod.snd

/-- The code whose words have these lengths; a symbol of length zero has no word. -/
def ofLengths (lengths : List Nat) : PrefixCode :=
  let groups := (List.range longestWord).map fun below => symbolsOfLength lengths (below + 1)
  ⟨groups.map List.length, groups.flatten.toArray⟩

/-- Reads on in a word: `word` is its value so far, `first` the first word of the length that is
reached next, and `before` the number of all shorter words. -/
def readFrom (code : PrefixCode) : List Nat → Nat → Nat → Nat → Take Nat
  | [], _, _, _ => Take.fail
  | count :: longer, word, first, before => do
    let word := 2 * word + (← Take.bit)
    if word < first + count then Take.present code.symbols[before + (word - first)]?
    else readFrom code longer word (2 * (first + count)) (before + count)

/-- The symbol of the next word. -/
def read (code : PrefixCode) : Take Nat :=
  code.readFrom code.counts 0 0 0

end PrefixCode

end UltraFabric.Compressed
