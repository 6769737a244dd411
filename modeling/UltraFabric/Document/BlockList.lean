/-
# UltraFabric.Document.BlockList — lists of flat records written in lines

Records may also be written in lines, one field each: a dash opens a record, and the names of its
fields all stand in one column, right of the dash. A value is a text in quotes or a word; a word may
go on in lines that are indented more than the names, a text in any line. What stands behind a `#`
is a comment. A byte order mark at the beginning of a line takes the first column of it, like a
blank.

`Block.step` reads one character. What may come next depends on the turn (`Turn`), on the column,
and on whether anything stands before it in its line (`Block.margin`).
-/
import UltraFabric.Document.Quote

namespace UltraFabric.Document

set_option autoImplicit false

/-- What the next thing has to be. -/
inductive Turn where
  /-- A dash, the first one of the text. -/
  | first
  /-- The name of a field: the first one behind a dash, or one below the names before it. -/
  | key
  /-- The colon behind the name of a field; the column of the name. -/
  | colon (key : Key) (column : Nat)
  /-- The value behind a colon. -/
  | value (key : Key)
  /-- The name of the next field, or the dash of the next record. -/
  | next
  deriving Repr

/-- What is being read. -/
inductive Block.Reading where
  | nothing
  | comment
  /-- A word so far, in reverse, and the gap behind it; the column of its beginning. -/
  | word (letters : List Char) (gap : Gap) (column : Nat)
  | quote (quote : Quote) (column : Nat)
  deriving Repr

/-- What has been read of a list of records; records and fields are in reverse. -/
structure Block where
  records : List Document
  fields : List (Key × Document)
  /-- The column of the dashes. -/
  dash : Nat
  /-- The column of the names of the record. -/
  keys : Nat
  turn : Turn
  reading : Block.Reading
  column : Nat
  /-- Whether only blanks or a dash stand before this place in its line. -/
  margin : Bool
  /-- How many bytes ago the name of a field began. -/
  reach : Nat
  deriving Repr

namespace Block

/-- Nothing read yet. -/
def start : Block := ⟨[], [], 0, 0, .first, .nothing, 0, true, 0⟩

/-! ### Scalars -/

/-- Ends a scalar: it is a name or a value. -/
def scalar (block : Block) (key : Key) (value : Document) (column : Nat) (margin : Bool) :
    Option Block :=
  match block.turn with
  | .key => some { block with reading := .nothing, turn := .colon key column, margin }
  | .value name =>
    some { block with
      fields := (name, value) :: block.fields, reading := .nothing, turn := .next, margin }
  | _ => none

/-- Ends a word. -/
def endWord (block : Block) (letters : List Char) (gap : Gap) (column : Nat) : Option Block :=
  let literal := String.ofList letters.reverse
  block.scalar (.word literal) (.word literal) column gap.isBroken

/-- Begins a scalar. -/
def startScalar (block : Block) (c : Char) (next : Option Char) : Option Block :=
  let block := { block with reach := 0 }
  if c = '"' then some { block with reading := .quote .start block.column }
  else if startsWord c next then
    some { block with reading := .word [c] .none block.column }
  else none

/-! ### Fields and records -/

/-- The record that ends here, added to the others. -/
def finish (block : Block) : List Document :=
  .record block.fields.reverse :: block.records

/-- A value that is missing. -/
def withoutValue (block : Block) : Block :=
  match block.turn with
  | .value name => { block with fields := (name, .word "") :: block.fields, turn := .next }
  | _ => block

/-- Begins what stands behind a field: a name in the column of the names, or a dash in the column of
the dashes. -/
def startField (block : Block) (c : Char) (next : Option Char) : Option Block :=
  if c = '-' && endsWord next then
    if block.column = block.dash then
      some { block with records := block.finish, fields := [], turn := .key, margin := true }
    else none
  else if block.column = block.keys then { block with turn := .key }.startScalar c next
  else none

/-- Begins whatever the turn wants. -/
def startToken (block : Block) (c : Char) (next : Option Char) : Option Block :=
  match block.turn with
  | .first =>
    if c = '-' && endsWord next then
      some { block with dash := block.column, turn := .key, margin := true }
    else none
  | .key => if block.dash < block.column then block.startScalar c next else none
  | .colon key column =>
    if c = ':' && endsWord next && block.reach ≤ longestName &&
        (block.fields.isEmpty || column = block.keys) then
      some { block with keys := column, turn := .value key, margin := false }
    else none
  | .value _ =>
    if block.margin && block.column ≤ block.keys then block.withoutValue.startField c next
    else block.startScalar c next
  | .next => if block.margin then block.startField c next else none

/-- Whether a line may end here: not between a name and its colon. -/
def mayBreak (block : Block) : Bool :=
  match block.turn, block.reading with
  | .colon .., _ => false
  | .key, .nothing | .key, .comment => true
  | .key, _ => false
  | _, _ => true

/-! ### Characters -/

/-- Takes a character outside of scalars. -/
def takeOutside (block : Block) (c : Char) (next : Option Char) : Option Block :=
  if c = ' ' || (c = byteOrderMark && block.column = 0) then some block
  else if c = '\t' then if block.margin then none else some block
  else if c = '#' then if block.mayBreak then some { block with reading := .comment } else none
  else block.startToken c next

/-- Takes a character inside or behind a word. -/
def takeInWord (block : Block) (letters : List Char) (gap : Gap) (column : Nat) (c : Char)
    (next : Option Char) : Option Block :=
  let outdented := gap.isBroken && block.column ≤ block.keys
  if isSpace c then
    if c = '\t' && outdented then none
    else some { block with reading := .word letters (gap.space c) column }
  else if outdented || (c = '#' && ! gap.isNone) || (c = ':' && endsWord next) then
    (block.endWord letters gap column).bind fun ended => ended.takeOutside c next
  else some { block with reading := .word (c :: gap.folded ++ letters) .none column }

/-- Takes a line break. -/
def takeBreak (block : Block) (c : Char) (next : Option Char) : Option Block :=
  if ! block.mayBreak then none
  else
    match block.reading with
    | .nothing | .comment => some { block with reading := .nothing, margin := true }
    | .word letters gap column =>
      some { block with reading := .word letters (gap.lineBreak c) column }
    | .quote quote column =>
      (quote.step .relaxed c next).map fun quote => { block with reading := .quote quote column }

/-- Takes a character of a text in quotes that is no line break. -/
def takeInQuote (block : Block) (quote : Quote) (column : Nat) (c : Char) (next : Option Char) :
    Option Block :=
  (quote.take .relaxed c next).bind fun
    | .going quote => some { block with reading := .quote quote column }
    | .closed pieces =>
      (joinPieces pieces).bind fun chars =>
        let text := String.ofList chars
        block.scalar (.text text) (.text text) column false

def take (block : Block) (c : Char) (rest : List Char) : Option Block :=
  let next := rest.head?
  if isLineBreak c then block.takeBreak c next
  else
    match block.reading with
    | .nothing => block.takeOutside c next
    | .comment => some block
    | .word letters gap column => block.takeInWord letters gap column c next
    | .quote quote column =>
      if block.column = 0 && startsMarker (c :: rest) then none
      else block.takeInQuote quote column c next

/-- Goes past a character. -/
def pass (block : Block) (c : Char) : Block :=
  { block with
    column := if isLineBreak c then 0 else block.column + 1
    reach := block.reach + c.utf8Size }

/-- Reads one more character, given what stands behind it. -/
def step (block : Block) (c : Char) (rest : List Char) : Option Block :=
  if isHalfBreak c rest.head? then some block else (block.take c rest).map (·.pass c)

/-- The records of a text that ends here, if it may. -/
def close? (block : Block) : Option (List Document) :=
  let ended :=
    match block.reading with
    | .word letters gap column => block.endWord letters gap column
    | .quote .. => none
    | _ => some block
  ended.bind fun block =>
    match block.withoutValue.turn with
    | .next => some block.withoutValue.finish.reverse
    | _ => none

def run : Block → List Char → Option (List Document)
  | block, [] => block.close?
  | block, c :: rest => (block.step c rest).bind fun next => run next rest

end Block

/-- The list of records that a text writes in lines, if it writes one. -/
def ofLines? (text : List Char) : Option Document :=
  (Block.run .start text).map .list

end UltraFabric.Document
