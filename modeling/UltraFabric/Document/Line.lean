/-
# UltraFabric.Document.Line — lines, blanks and the edges of words

The relaxed dialect looks at lines: a text may go on in the next one, a word ends before a blank,
and the name of a field ends on its line. This module holds what both of its forms share: where lines
break, what a gap between two words stands for (`Gap`), where a word starts and ends, and the words
that stand between documents and in none (`startsMarker`).
-/
namespace UltraFabric.Document

set_option autoImplicit false

/-! ### Characters -/

/-- The line breaks of the relaxed dialect: carriage return and line feed, and three others. -/
def isLineBreak (c : Char) : Bool :=
  c = '\n' || c = '\r' || c.toNat = 0x85 || c.toNat = 0x2028 || c.toNat = 0x2029

/-- A space or a tab. -/
def isSpace (c : Char) : Bool :=
  c = ' ' || c = '\t'

/-- The mark of the order of bytes; at the beginning of a line it is a blank, and takes a column. -/
def byteOrderMark : Char := Char.ofNat 0xFEFF

/-- Whether a line break is the first half of one that takes two characters. -/
def isHalfBreak (c : Char) (next : Option Char) : Bool :=
  c = '\r' && next = some '\n'

/-- What a line break stands for inside a text: separators of lines and paragraphs for themselves,
all others for a line feed. -/
def breakChar (c : Char) : Char :=
  if c.toNat = 0x2028 || c.toNat = 0x2029 then c else '\n'

/-! ### Words -/

/-- Characters that cannot start a word: blanks and marks. -/
def reserved : List Char :=
  " \t-?:,[]\x7b\x7d#&*!|>'\"%@".toList ++ [Char.ofNat 96]

/-- Whether a word ends before this character, or before the end of the text. -/
def endsWord : Option Char → Bool
  | none => true
  | some c => isSpace c || isLineBreak c

/-- Whether a word starts with a character, given the one behind it. -/
def startsWord (c : Char) (next : Option Char) : Bool :=
  ! reserved.contains c || ((c = '-' || c = '?' || c = ':') && ! endsWord next)

/-- Whether a text starts with the mark in front of a document or behind one: three dashes or three
dots that are a word. -/
def startsMarker : List Char → Bool
  | '-' :: '-' :: '-' :: rest | '.' :: '.' :: '.' :: rest => endsWord rest.head?
  | _ => false

/-- How many bytes the name of a field may take, blanks behind it included. -/
def longestName : Nat := 1024

/-! ### Gaps -/

/-- What stands between two words of a text. -/
inductive Gap where
  /-- Blanks on one line, in reverse. -/
  | blanks (chars : List Char)
  /-- The first line break, if it counts, and those that follow, in reverse. -/
  | lines (first : Option Char) (more : List Char)
  deriving Repr

namespace Gap

def none : Gap := .blanks []

def isNone : Gap → Bool
  | .blanks [] => true
  | _ => false

/-- Whether a gap reaches into another line. -/
def isBroken : Gap → Bool
  | .lines .. => true
  | .blanks _ => false

/-- Adds a blank; behind a line break it does not count. -/
def space (c : Char) : Gap → Gap
  | .blanks chars => .blanks (c :: chars)
  | gap => gap

/-- Adds a line break. -/
def lineBreak (c : Char) : Gap → Gap
  | .blanks _ => .lines (some (breakChar c)) []
  | .lines first more => .lines first (breakChar c :: more)

/-- What a gap stands for, in reverse: blanks for themselves, one line break for a space, and
several for all but the first. -/
def folded : Gap → List Char
  | .blanks chars => chars
  | .lines (some '\n') [] => [' ']
  | .lines (some '\n') more => more
  | .lines first more => more ++ first.toList

end Gap

end UltraFabric.Document
