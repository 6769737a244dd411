/-
# UltraFabric.Document.Source — what a whole file says

In the strict dialect a file is a text with brackets. In the relaxed one it may also be a list of
records in lines, or nothing at all, and it holds printable characters only. That is looked at in
blocks (`blockSize`): of a file with another character the blocks before the one that holds it are
still read.
-/
import UltraFabric.Document.BlockList
import UltraFabric.Document.Nesting

namespace UltraFabric.Document

set_option autoImplicit false

/-! ### Printable characters -/

/-- The ranges of characters that may stand in a file of the relaxed dialect, each with its first
and last code point. -/
def printableRanges : List (Nat × Nat) :=
  [(0x09, 0x0A), (0x0D, 0x0D), (0x20, 0x7E), (0x85, 0x85), (0xA0, 0xD7FF),
    (0xE000, 0xFFFD), (0x10000, 0x10FFFF)]

def isPrintable (c : Char) : Bool :=
  printableRanges.any fun (first, last) => first ≤ c.toNat && c.toNat ≤ last

/-- How many bytes of a file are looked at together. A character that does not fit into a block is
the first one of the next. -/
def blockSize : Nat := 16384

/-- How many characters stand in front of the block with the first character that is not printable;
none if all are printable. Of what has been read, `count` are the characters, `before` those in front
of the block, and `used` the bytes of the block. -/
def soundLength? : List Char → (count before used : Nat) → Option Nat
  | [], _, _, _ => none
  | c :: rest, count, before, used =>
    let (before, used) := if used + c.utf8Size ≤ blockSize then (before, used) else (count, 0)
    if isPrintable c then soundLength? rest (count + 1) before (used + c.utf8Size)
    else some before

/-- How many characters a reader looks ahead. -/
def lookahead : Nat := 3

/-- What can be read of a text, and whether that is all of it. -/
def readable (text : List Char) : List Char × Bool :=
  match soundLength? text 0 0 0 with
  | none => (text, true)
  | some count => (text.take (count - lookahead), false)

/-! ### Files -/

/-- Drops blanks, line breaks and comments in front of a text, and byte order marks at the beginning
of a line; tabs stay. -/
def withoutPreface (margin comment : Bool) : List Char → List Char
  | [] => []
  | c :: rest =>
    if isLineBreak c then withoutPreface true false rest
    else if comment then withoutPreface false true rest
    else if c = ' ' || (margin && c = byteOrderMark) then withoutPreface false false rest
    else if c = '#' then withoutPreface false true rest
    else c :: rest

/-- What a text says in the relaxed dialect. -/
def Excerpt.ofRelaxed (text : List Char) : Excerpt :=
  let (text, whole) := readable text
  match withoutPreface true false text, whole with
  | [], true => ⟨some (.word ""), true⟩
  | '-' :: rest, true =>
    if endsWord rest.head? then ⟨ofLines? text, true⟩ else .ofBracketed true text
  | _, whole => .ofBracketed whole text

/-- What a file says. -/
def Excerpt.ofSource (dialect : Dialect) (contents : String) : Excerpt :=
  match dialect with
  | .strict => .ofText contents.toList
  | .relaxed => .ofRelaxed contents.toList

end UltraFabric.Document
