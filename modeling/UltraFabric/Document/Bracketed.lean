/-
# UltraFabric.Document.Bracketed — the tokens of a relaxed text with brackets

In the relaxed dialect texts may be words or stand in apostrophes, comments may stand between the
tokens, and the name of a field is known as one by a question mark before it, or else only by the
colon behind it. So a token that may be the beginning of a name is remembered as a `Candidate`, at
most one inside each bracket that is open, and a colon puts `Token.name` in front of it. A name ends
on the line on which it began, and within `longestName` bytes; a token that is too far back is no
candidate any more.

As long as a token is a candidate it is not known what stands there. So where the text goes wrong,
only the tokens before all candidates are told (`Scan.known`).
-/
import UltraFabric.Document.Token

namespace UltraFabric.Document.Bracketed

set_option autoImplicit false

/-- A token that may be the beginning of a name. -/
structure Candidate where
  /-- How many tokens stand before it. -/
  position : Nat
  line : Nat
  /-- How many bytes stand before it. -/
  offset : Nat
  deriving Repr

/-- What is being read. -/
inductive Reading where
  | nothing
  | comment
  /-- A word so far, in reverse, and the gap behind it. -/
  | word (letters : List Char) (gap : Gap)
  | quote (quote : Quote)
  /-- A text in apostrophes so far, in reverse, and the gap behind it; whether an apostrophe comes
  next that is part of it. -/
  | apostrophes (letters : List Char) (gap : Gap) (doubled : Bool)
  /-- A reference behind its asterisk; whether its name has begun. -/
  | reference (named : Bool)
  deriving Repr

/-- The tokens so far, in reverse, and what has to be known of the text to read on. -/
structure Scan where
  tokens : List Token
  /-- How many tokens there are. -/
  count : Nat
  /-- The candidates inside the open brackets, the innermost first, and last the one outside. -/
  candidates : List (Option Candidate)
  /-- Whether the next token may be the beginning of a name. -/
  mayName : Bool
  reading : Reading
  line : Nat
  column : Nat
  /-- How many bytes have been read. -/
  offset : Nat
  deriving Repr

namespace Scan

/-- Nothing read yet. -/
def start : Scan := ⟨[], 0, [none], true, .nothing, 0, 0, 0⟩

/-- Whether a bracket is open. -/
def isInside (scan : Scan) : Bool :=
  match scan.candidates with
  | _ :: _ :: _ => true
  | _ => false

/-! ### Candidates -/

/-- Whether a name that begins at a candidate may still end here. -/
def reaches (scan : Scan) (candidate : Candidate) : Bool :=
  candidate.line = scan.line && scan.offset ≤ candidate.offset + longestName

/-- Forgets the candidates that are too far back. -/
def refresh (scan : Scan) : Scan :=
  { scan with candidates := scan.candidates.map (·.filter scan.reaches) }

/-- Replaces the candidate inside the innermost bracket. -/
def withCandidate (scan : Scan) (candidate : Option Candidate) : Scan :=
  { scan with candidates := candidate :: scan.candidates.tail }

/-- Makes the next token a candidate, if it may be one. -/
def remember (scan : Scan) : Scan :=
  if scan.mayName then scan.withCandidate (some ⟨scan.count, scan.line, scan.offset⟩) else scan

/-- The tokens before all candidates. -/
def known (scan : Scan) : List Token :=
  let tokens := scan.tokens.reverse
  match (scan.candidates.filterMap id).getLast? with
  | some candidate => tokens.take candidate.position
  | none => tokens

/-! ### Tokens -/

/-- Adds a token; `mayName` says whether a name may come next. -/
def push (scan : Scan) (token : Token) (mayName : Bool) : Scan :=
  { scan with
    tokens := token :: scan.tokens
    count := scan.count + 1
    mayName
    reading := .nothing }

/-- Goes into a bracket. -/
def enter (scan : Scan) (token : Token) : Scan :=
  let scan := scan.remember.push token true
  { scan with candidates := none :: scan.candidates }

/-- Leaves the innermost bracket, if there is one. -/
def leave (scan : Scan) (token : Token) : Scan :=
  let candidates :=
    match scan.candidates with
    | _ :: next :: outer => next :: outer
    | _ => [none]
  { scan.push token false with candidates }

/-- Ends what might have been a name. -/
def separate (scan : Scan) (token : Token) : Scan :=
  (scan.withCandidate none).push token true

/-- Adds a colon: what stands before it is a name now, if it is a candidate. -/
def colon (scan : Scan) : Scan :=
  let named :=
    match scan.candidates with
    | some candidate :: _ =>
      { scan with
        tokens := scan.tokens.insertIdx (scan.count - candidate.position) .name
        count := scan.count + 1 }
    | _ => scan
  (named.withCandidate none).push .colon false

/-- Begins a text in quotes or a word. -/
def startScalar (scan : Scan) (reading : Reading) : Scan :=
  { scan.remember with reading, mayName := false }

/-- Ends a word; behind a line break a name may come next. -/
def endWord (scan : Scan) (letters : List Char) (gap : Gap) : Scan :=
  scan.push (.scalar (.word (String.ofList letters.reverse))) gap.isBroken

/-- Stands around texts like quotes do, but without escapes inside. -/
def apostrophe : Char := Char.ofNat 39

/-- Begins a token; an error is the state in which the text goes wrong. -/
def startToken (scan : Scan) (c : Char) (rest : List Char) : Except Scan Scan :=
  if scan.column = 0 && startsMarker (c :: rest) then .error scan
  else
    match c, scan.isInside with
    | '[', _ => .ok (scan.enter .openList)
    | ']', _ => .ok (scan.leave .closeList)
    | '\x7b', _ => .ok (scan.enter .openRecord)
    | '\x7d', _ => .ok (scan.leave .closeRecord)
    | ',', _ => .ok (scan.separate .comma)
    | '"', _ => .ok (scan.startScalar (.quote .start))
    | '*', _ => .ok (scan.startScalar (.reference false))
    | ':', true => .ok scan.colon
    | '?', true => .ok ((scan.withCandidate none).push .name false)
    | c, inside =>
      if c = apostrophe then .ok (scan.startScalar (.apostrophes [] .none false))
      else if startsWord c rest.head? then .ok (scan.startScalar (.word [c] .none))
      else if c = '-' && inside then .ok (scan.separate .stray)
      else .error scan

/-! ### Characters -/

/-- Whether a character is a blank between tokens. A tab is none at the beginning of a line outside
of all brackets. -/
def isBlank (scan : Scan) (c : Char) : Bool :=
  c = ' ' || (c = byteOrderMark && scan.column = 0) ||
    (c = '\t' && (scan.isInside || ! scan.mayName))

/-- Takes a character between tokens. -/
def takeOutside (scan : Scan) (c : Char) (rest : List Char) : Except Scan Scan :=
  if scan.isBlank c then .ok scan
  else if isLineBreak c then .ok { scan with mayName := scan.mayName || ! scan.isInside }
  else if c = '#' then .ok { scan with reading := .comment }
  else scan.refresh.startToken c rest

/-- Marks that may stand behind a colon, but not behind one in a word. -/
def isMark (c : Char) : Bool :=
  ",?[]\x7b\x7d".toList.contains c

/-- Whether a word ends before a character that is no blank. -/
def endsBefore (scan : Scan) (gap : Gap) (c : Char) (rest : List Char) : Bool :=
  (scan.column = 0 && startsMarker (c :: rest)) || (c = '#' && ! gap.isNone) ||
    (c = ':' && endsWord rest.head?) || (scan.isInside && ",[]\x7b\x7d".toList.contains c)

/-- Takes a character inside or behind a word. -/
def takeInWord (scan : Scan) (letters : List Char) (gap : Gap) (c : Char) (rest : List Char) :
    Except Scan Scan :=
  if isLineBreak c then .ok { scan with reading := .word letters (gap.lineBreak c) }
  else if isSpace c then .ok { scan with reading := .word letters (gap.space c) }
  else if scan.endsBefore gap c rest then (scan.endWord letters gap).takeOutside c rest
  else if scan.isInside && c = ':' && rest.head?.any isMark then .error scan
  else .ok { scan with reading := .word (c :: gap.folded ++ letters) .none }

/-- Takes a character of a text in quotes. -/
def takeInQuote (scan : Scan) (quote : Quote) (c : Char) (rest : List Char) : Except Scan Scan :=
  if scan.column = 0 && startsMarker (c :: rest) then .error scan
  else
    match quote.take .relaxed c rest.head? with
    | some (.going quote) => .ok { scan with reading := .quote quote }
    | some (.closed pieces) => .ok (scan.push (.scalar (ofPieces pieces)) false)
    | none => .error scan

/-- Takes a character of a text in apostrophes. Two apostrophes together are one, and no end. -/
def takeInApostrophes (scan : Scan) (letters : List Char) (gap : Gap) (doubled : Bool) (c : Char)
    (rest : List Char) : Except Scan Scan :=
  let go (letters : List Char) (gap : Gap) (doubled : Bool) : Except Scan Scan :=
    .ok { scan with reading := .apostrophes letters gap doubled }
  if scan.column = 0 && startsMarker (c :: rest) then .error scan
  else if doubled then go (c :: letters) .none false
  else if isLineBreak c then go letters (gap.lineBreak c) false
  else if isSpace c then go letters (gap.space c) false
  else if c ≠ apostrophe then go (c :: gap.folded ++ letters) .none false
  else if rest.head? = some apostrophe then go (gap.folded ++ letters) .none true
  else .ok (scan.push (.scalar (.text (String.ofList (gap.folded ++ letters).reverse))) false)

/-- Characters that may stand behind a reference, besides blanks. -/
def endsReference : List Char :=
  "?:,]\x7d%@".toList ++ [Char.ofNat 96]

/-- Takes a character inside or behind a reference. -/
def takeInReference (scan : Scan) (named : Bool) (c : Char) (rest : List Char) : Except Scan Scan :=
  if c.isAlphanum || c = '_' || c = '-' then .ok { scan with reading := .reference true }
  else if named && (endsWord (some c) || endsReference.contains c) then
    (scan.push .stray false).takeOutside c rest
  else .error scan

def take (scan : Scan) (c : Char) (rest : List Char) : Except Scan Scan :=
  if isHalfBreak c rest.head? then .ok scan
  else
    match scan.reading with
    | .nothing => scan.takeOutside c rest
    | .comment =>
      if isLineBreak c then { scan with reading := .nothing }.takeOutside c rest else .ok scan
    | .word letters gap => scan.takeInWord letters gap c rest
    | .quote quote => scan.takeInQuote quote c rest
    | .apostrophes letters gap doubled => scan.takeInApostrophes letters gap doubled c rest
    | .reference named => scan.takeInReference named c rest

/-- Goes past a character. -/
def pass (scan : Scan) (c : Char) : Scan :=
  { scan with
    line := if isLineBreak c then scan.line + 1 else scan.line
    column := if isLineBreak c then 0 else scan.column + 1
    offset := scan.offset + c.utf8Size }

/-- Reads one more character, given what stands behind it. -/
def step (scan : Scan) (c : Char) (rest : List Char) : Except Scan Scan :=
  (scan.take c rest).map (·.pass c)

/-- The tokens of a text that ends here, and whether it may. -/
def finish (scan : Scan) : List Token × Bool :=
  match scan.reading with
  | .nothing | .comment => (scan.tokens.reverse, true)
  | .word letters gap => ((scan.endWord letters gap).tokens.reverse, true)
  | .reference true => ((scan.push .stray false).tokens.reverse, true)
  | .quote _ | .apostrophes .. | .reference false => (scan.known, false)

/-- Reads the characters of a text, which may not be `whole`: the tokens that are known, and whether
they are all there are. -/
def run (whole : Bool) : Scan → List Char → List Token × Bool
  | scan, [] => if whole then scan.finish else (scan.known, false)
  | scan, c :: rest =>
    match scan.step c rest with
    | .ok next => run whole next rest
    | .error stopped => (stopped.known, false)

end Scan

end UltraFabric.Document.Bracketed
