/-
# UltraFabric.Document.Rounding — documents with their numbers in double precision

Who takes numbers in double precision and writes them out again changes how they look. `rounded` is
a document after that: whole numbers of 64 bits stay, all others get the fewest digits that tell them
from the numbers next to them.
-/
import UltraFabric.Document
import UltraFabric.Number.Shortest

namespace UltraFabric.Document

set_option autoImplicit false

/-- A number as it is written in double precision; one that is too large stays. -/
def roundedLiteral (literal : String) : String :=
  ((Number.inDouble? literal.toList).map String.ofList).getD literal

mutual

/-- A document with all numbers that are not whole in double precision. -/
def rounded : Document → Document
  | .real literal => .real (roundedLiteral literal)
  | .list items => .list (roundedItems items)
  | .record fields => .record (roundedFields fields)
  | document => document

def roundedItems : List Document → List Document
  | [] => []
  | item :: rest => rounded item :: roundedItems rest

def roundedFields : List (Key × Document) → List (Key × Document)
  | [] => []
  | (key, value) :: rest => (key, rounded value) :: roundedFields rest

end

end UltraFabric.Document
