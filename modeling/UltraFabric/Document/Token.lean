/-
# UltraFabric.Document.Token — the words of a document

A document is a sequence of marks, texts in quotes, numbers and the words `null`, `true` and
`false`. `Scan.run` reads it in the strict dialect one character at a time: the state holds the
tokens so far and what is being read, so that the whole text is read by structural recursion. Where
the text goes wrong the tokens before it are still there.

The relaxed dialect has the same tokens and two more (`Document.Bracketed`).
-/
import UltraFabric.Document.Quote

namespace UltraFabric.Document

set_option autoImplicit false

inductive Token where
  | openList
  | closeList
  | openRecord
  | closeRecord
  | comma
  | colon
  /-- In the relaxed dialect, says that the name of a field comes next. -/
  | name
  /-- In the relaxed dialect, what no document with brackets has: a dash that stands alone, or a
  reference. -/
  | stray
  /-- A value without parts. -/
  | scalar (value : Document)
  deriving Repr

/-- What is being read between two tokens or inside one; letters and digits are kept in reverse. -/
inductive Reading where
  | nothing
  | word (letters : List Char)
  | number (digits : List Char)
  | quote (quote : Quote)
  deriving Repr

/-- The tokens so far, in reverse, and what is being read. -/
structure Scan where
  tokens : List Token
  reading : Reading
  deriving Repr

/-- Nothing read yet. -/
def Scan.start : Scan := ⟨[], .nothing⟩

/-! ### Numbers and words -/

/-- Digits behind an optional minus sign, without a zero in front of others. -/
def wholeDigits? (digits : List Char) : Option (Bool × List Char × List Char) :=
  let (negative, rest) : Bool × List Char :=
    match digits with
    | '-' :: rest => (true, rest)
    | rest => (false, rest)
  let whole := rest.takeWhile Char.isDigit
  match whole with
  | [] => none
  | '0' :: _ :: _ => none
  | _ => some (negative, whole, rest.dropWhile Char.isDigit)

/-- The part of a number behind its whole digits: nothing, places, an exponent, or both. -/
def isFraction (text : List Char) : Bool :=
  let rest : Option (List Char) :=
    match text with
    | '.' :: places =>
      if (places.takeWhile Char.isDigit).isEmpty then none else some (places.dropWhile Char.isDigit)
    | rest => some rest
  match rest with
  | none => false
  | some rest => (Number.Single.readExponent rest).isSome

/-- The value of a number; a zero with a minus sign is not whole. -/
def numberOfParts (negative : Bool) (whole fraction : List Char) (literal : String) : Document :=
  let size : Int := Number.Single.digitsValue whole
  let value := if negative then -size else size
  if ! fraction.isEmpty then .real literal
  else if negative && size = 0 then .real "-0.0"
  else if fitsInteger value then .int value
  else .real literal

/-- The value of a number as it was written. -/
def numberValue? (digits : List Char) : Option Document :=
  (wholeDigits? digits).bind fun (negative, whole, fraction) =>
    if isFraction fraction then
      some (numberOfParts negative whole fraction (String.ofList digits))
    else none

/-- The value of a word. -/
def wordValue? (letters : List Char) : Option Document :=
  if letters = "null".toList then some .null
  else if letters = "true".toList then some (.bool true)
  else if letters = "false".toList then some (.bool false)
  else none

/-! ### Reading characters -/

namespace Scan

/-- Adds a token. -/
def push (scan : Scan) (token : Token) : Scan :=
  ⟨token :: scan.tokens, .nothing⟩

/-- Ends a word or a number. -/
def settle (scan : Scan) : Option Scan :=
  match scan.reading with
  | .nothing => some scan
  | .word letters => (wordValue? letters.reverse).map fun value => scan.push (.scalar value)
  | .number digits => (numberValue? digits.reverse).map fun value => scan.push (.scalar value)
  | .quote _ => none

/-- Begins a token. -/
def startToken (scan : Scan) (c : Char) : Option Scan :=
  match c with
  | ' ' | '\n' | '\r' | '\t' => some scan
  | '[' => some (scan.push .openList)
  | ']' => some (scan.push .closeList)
  | '\x7b' => some (scan.push .openRecord)
  | '\x7d' => some (scan.push .closeRecord)
  | ',' => some (scan.push .comma)
  | ':' => some (scan.push .colon)
  | '"' => some { scan with reading := .quote .start }
  | c =>
    if c.isDigit || c = '-' then some { scan with reading := .number [c] }
    else if c.isLower then some { scan with reading := .word [c] }
    else none

/-- Reads one more character, given the one behind it. -/
def step (scan : Scan) (c : Char) (next : Option Char) : Option Scan :=
  match scan.reading with
  | .nothing => scan.startToken c
  | .word letters =>
    if c.isAlphanum then some { scan with reading := .word (c :: letters) }
    else scan.settle.bind (·.startToken c)
  | .number digits =>
    if c.isAlphanum || c = '.' || c = '+' || c = '-' then
      some { scan with reading := .number (c :: digits) }
    else scan.settle.bind (·.startToken c)
  | .quote quote =>
    (quote.take .strict c next).map fun
      | .going quote => { scan with reading := .quote quote }
      | .closed pieces => scan.push (.scalar (ofPieces pieces))

/-- Reads all characters of a text: the tokens up to the first thing that is wrong, and whether
nothing is. -/
def run : Scan → List Char → List Token × Bool
  | scan, [] =>
    match scan.settle with
    | some scan => (scan.tokens.reverse, true)
    | none => (scan.tokens.reverse, false)
  | scan, c :: rest =>
    match scan.step c rest.head? with
    | some next => run next rest
    | none => (scan.tokens.reverse, false)

end Scan

end UltraFabric.Document
