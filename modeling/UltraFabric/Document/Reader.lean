/-
# UltraFabric.Document.Reader — reading values with their names

A reader takes a document apart into a value of the design. Names are numbered while they are read,
in the order of the document, and stay numbered when reading fails. A record is read field by field:
fields that nobody knows are skipped, a known field may stand only once (`record`), and the required
ones have to be there.
-/
import UltraFabric.Document.Nesting
import UltraFabric.Lexicon

namespace UltraFabric

set_option autoImplicit false

/-- Why a document has no value of the kind that is wanted. -/
inductive ReadError where
  | malformed
  /-- A text stands where something else or another word is wanted, and is told to the user. -/
  | unexpected (text : String)
  deriving DecidableEq, Repr

/-- Reading in a dialect, numbering the names on the way. -/
abbrev Reader := ReaderT Document.Dialect (ExceptT ReadError (StateM Lexicon))

namespace Reader

variable {α : Type}

def fail : Reader α :=
  throw .malformed

/-- Refuses a document where something else is wanted. A word is told if it stands for itself. -/
def refuse : Document → Reader α
  | .text value => throw (.unexpected value)
  | .word literal =>
    match Document.Word.meaning? literal with
    | some (.text value) => throw (.unexpected value)
    | _ => fail
  | _ => fail

/-- A value that must be there. -/
def orFail : Option α → Reader α
  | some value => pure value
  | none => fail

/-- A value that a document must have; without it the document is refused. -/
def orRefuse (document : Document) : Option α → Reader α
  | some value => pure value
  | none => refuse document

/-- A text; a word is a text as it is written. -/
def text : Document → Reader String
  | .text value => pure value
  | .word literal => pure literal
  | _ => fail

/-- A text that is a name: it is numbered. -/
def name (document : Document) : Reader Name := do
  let value ← text document
  modify (·.mention value)
  pure value

def bool : Document → Reader Bool
  | .bool value => pure value
  | .word literal => orRefuse (.word literal) (Document.Word.bool? literal)
  | document => refuse document

/-- A whole number of a document, given how words are read. -/
def whole (ofWord : List Char → Option Int) (least greatest : Int) (document : Document) :
    Reader Int := do
  let value ←
    match document with
    | .int value => pure value
    | .word literal => orRefuse document (ofWord literal.toList)
    | document => refuse document
  if least ≤ value ∧ value ≤ greatest then pure value else fail

/-- A whole number within bounds, ends included. -/
def int (least greatest : Int) : Document → Reader Int :=
  whole Document.Word.signed? least greatest

/-- A whole number without a sign, at most `greatest`. -/
def natural (greatest : Nat) (document : Document) : Reader Nat := do
  let unsigned (word : List Char) := (Document.Word.unsigned? word).map Int.ofNat
  return (← whole unsigned 0 greatest document).toNat

/-- A count or index of 32 bits. -/
def index : Document → Reader Nat :=
  natural 4294967295

/-- A coordinate of 32 bits. -/
def coordinate : Document → Reader Int :=
  int (-2147483648) 2147483647

/-- Whether a document stands for no value. -/
def isNothing : Document → Bool
  | .null => true
  | .word literal => Document.Word.nullWords.contains literal
  | _ => false

/-- A value that may be missing. -/
def optional (reader : Document → Reader α) (document : Document) : Reader (Option α) := do
  if isNothing document then return none else return some (← reader document)

/-- The items of a list; nothing at all is a list without items. -/
def items : Document → Reader (List Document)
  | .list items => pure items
  | .word "" => pure []
  | document => refuse document

def list (reader : Document → Reader α) (document : Document) : Reader (List α) := do
  (← items document).mapM reader

/-- The fields of a record; nothing at all is a record without fields. -/
def fields : Document → Reader (List (Key × Document))
  | .record fields => pure fields
  | .word "" => pure []
  | document => refuse document

/-- The name of a field. -/
def key : Key → Reader String
  | .text value => pure value
  | .word literal => pure literal
  | .unreadable => fail

/-- One of a list of words. -/
def chosen (choices : List (String × α)) (word : String) : Reader α :=
  match choices.lookup word with
  | some value => pure value
  | none => throw (.unexpected word)

/-- One of a list of words. In the strict dialect it may also be the only name in a record, with
nothing behind it. -/
def choice (choices : List (String × α)) (document : Document) : Reader α := do
  match document, ← read with
  | .record ((word, content) :: more), .strict =>
    let value ← chosen choices (← key word)
    match content, more with
    | .null, [] => pure value
    | content, _ => refuse content
  | document, _ => chosen choices (← text document)

/-- Every field as a named entry, later ones replacing earlier ones of the same name. -/
def table (reader : Document → Reader α) (document : Document) :
    Reader (Std.ExtTreeMap Name α) := do
  (← fields document).foldlM (fun entries (name, content) => do
    let name ← key name
    modify (·.mention name)
    return entries.insert name (← reader content)) ∅

/-- How the field of some name changes the value that is being read; none for unknown names. -/
abbrev Fields (α : Type) := String → Option (Document → α → Reader α)

/-- Reads the fields of a record in order, given those that came before. -/
def readFields (known : Fields α) :
    List (Key × Document) → List String → α → Reader (α × List String)
  | [], seen, value => pure (value, seen)
  | (name, content) :: rest, seen, value => do
    let name ← key name
    match known name with
    | none => readFields known rest seen value
    | some field =>
      if seen.contains name then fail
      else readFields known rest (name :: seen) (← field content value)

/-- A record whose `required` fields are present, read on top of a value with all defaults. -/
def record (required : List String) (initial : α) (known : Fields α) (document : Document) :
    Reader α := do
  let (value, seen) ← readFields known (← fields document) [] initial
  if required.all seen.contains then pure value else fail

/-- Reads a document from the beginning, with the names numbered so far. -/
def run (reader : Document → Reader α) (dialect : Document.Dialect) (lexicon : Lexicon)
    (document : Document) : Except ReadError α × Lexicon :=
  StateT.run (ExceptT.run (ReaderT.run (reader document) dialect)) lexicon

end Reader

end UltraFabric
