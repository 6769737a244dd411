/-
# UltraFabric.Document.Keeping — documents that are kept before they are read

Some values can only be read when something is known that may stand behind them. They are kept until
then, and keeping is harder than skipping: every text in them needs content, every word a meaning
and every number a size within bounds, and containers may be nested only so deep (`keep?`).
-/
import UltraFabric.Document.Nesting

namespace UltraFabric.Document

set_option autoImplicit false

/-- How deep lists and records may be nested in each other. -/
def Dialect.depth : Dialect → Nat
  | .strict => 127
  | .relaxed => 128

/-- The name of a field when it is kept. -/
def keepKey? : Key → Option Key
  | .text key => some (.text key)
  | .unreadable => none
  | .word literal =>
    (Word.meaning? literal).map fun
      | .text key => .text key
      | _ => .word literal

mutual

/-- A document when it is kept, all words settled; `room` is how deep containers may be nested. -/
def keep? (room : Nat) : Document → Option Document
  | .word literal => Word.meaning? literal
  | .real literal =>
    if Number.Double.overflows literal.toList then none else some (.real literal)
  | .unreadable => none
  | .list items =>
    match room with
    | 0 => none
    | room + 1 => (keepItems? room items).map .list
  | .record fields =>
    match room with
    | 0 => none
    | room + 1 => (keepFields? room fields).map .record
  | .null => some .null
  | .bool value => some (.bool value)
  | .int value => some (.int value)
  | .text value => some (.text value)

def keepItems? (room : Nat) : List Document → Option (List Document)
  | [] => some []
  | item :: rest => do return (← keep? room item) :: (← keepItems? room rest)

def keepFields? (room : Nat) : List (Key × Document) → Option (List (Key × Document))
  | [] => some []
  | (key, value) :: rest => do
    return (← keepKey? key, ← keep? room value) :: (← keepFields? room rest)

end

end UltraFabric.Document
