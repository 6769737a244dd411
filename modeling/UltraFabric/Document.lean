/-
# UltraFabric.Document — the tree behind every file

Chips, netlists, records and finished configurations are stored as trees of records, lists and
scalars. A record keeps its fields in the order of the file, repeated ones included, because names
are numbered in that order and because a repeated field is an error for whoever reads the record.

A number is either whole and within 64 bits, or kept as it was written. Where texts need no quotes, a
word is kept as it was written too: what it means depends on what is wanted in its place.
`unreadable` is a value that may stand where nobody reads it but has no content: a text with half a
surrogate pair.
-/
import Std.Data.ExtTreeMap

namespace UltraFabric

set_option autoImplicit false

/-- The name of a field. -/
inductive Key where
  | text (value : String)
  /-- A word without quotes, as it was written. -/
  | word (literal : String)
  | unreadable
  deriving DecidableEq, Repr

instance : Coe String Key := ⟨.text⟩

/-- A value of a file. -/
inductive Document where
  | null
  | bool (value : Bool)
  | int (value : Int)
  /-- A number that is not whole or does not fit, as it was written. -/
  | real (literal : String)
  | text (value : String)
  /-- A word without quotes, as it was written. -/
  | word (literal : String)
  | list (items : List Document)
  | record (fields : List (Key × Document))
  | unreadable
  deriving Repr, Inhabited

namespace Document

/-- A record with names for its fields. -/
def ofFields (fields : List (String × Document)) : Document :=
  .record (fields.map fun (name, value) => (.text name, value))

/-- The value of a field; without one of that name, nothing. -/
def field (name : String) : Document → Document
  | .record fields => (fields.lookup (name : Key)).getD .null
  | _ => .null

/-- The text of a name. -/
def nameOf : Key → String
  | .text value | .word value => value
  | .unreadable => ""

mutual

/-- The document with the fields of every record in order of their names; of several fields with one
name only the last is left. -/
def sorted : Document → Document
  | .list items => .list (sortedItems items)
  | .record fields =>
    .ofFields (Std.ExtTreeMap.ofList (sortedFields fields) compare).toList
  | document => document

def sortedItems : List Document → List Document
  | [] => []
  | item :: rest => sorted item :: sortedItems rest

def sortedFields : List (Key × Document) → List (String × Document)
  | [] => []
  | (name, value) :: rest => (nameOf name, sorted value) :: sortedFields rest

end

/-- A whole number that fits 64 bits, with or without a sign. -/
def fitsInteger (value : Int) : Bool :=
  -9223372036854775808 ≤ value && value ≤ 18446744073709551615

/-- One hexadecimal digit. -/
def hexDigit (n : Nat) : Char :=
  if n < 10 then Char.ofNat ('0'.toNat + n) else Char.ofNat ('a'.toNat + (n - 10))

/-- How a character is written inside quotes: quotes and backslashes behind a backslash, control
characters by their short names or in four hexadecimal digits, all others as they are. -/
def quotedChar (c : Char) : List Char :=
  match c with
  | '"' => ['\\', '"']
  | '\\' => ['\\', '\\']
  | '\n' => ['\\', 'n']
  | '\r' => ['\\', 'r']
  | '\t' => ['\\', 't']
  | c =>
    if c = Char.ofNat 8 then ['\\', 'b']
    else if c = Char.ofNat 12 then ['\\', 'f']
    else if c.toNat < 32 then ['\\', 'u', '0', '0', hexDigit (c.toNat / 16), hexDigit (c.toNat % 16)]
    else [c]

/-- A text in quotes. -/
def quoted (text : String) : String :=
  String.ofList ('"' :: (text.toList.flatMap quotedChar ++ ['"']))

mutual

/-- The document on one line, without blanks. -/
def compact : Document → String
  | .null => "null"
  | .bool value => if value then "true" else "false"
  | .int value => toString value
  | .real literal => literal
  | .text value => quoted value
  | .word literal => literal
  | .list items => "[" ++ compactItems items ++ "]"
  | .record fields => "\x7b" ++ compactFields fields ++ "\x7d"
  | .unreadable => "null"

def compactItems : List Document → String
  | [] => ""
  | [item] => compact item
  | item :: rest => compact item ++ "," ++ compactItems rest

def compactFields : List (Key × Document) → String
  | [] => ""
  | [(key, value)] => quoted (nameOf key) ++ ":" ++ compact value
  | (key, value) :: rest => quoted (nameOf key) ++ ":" ++ compact value ++ "," ++ compactFields rest

end

/-- A line break and the blanks of a nesting depth. -/
def lineBreak (depth : Nat) : String :=
  "\n" ++ String.ofList (List.replicate (2 * depth) ' ')

mutual

/-- The document over several lines, two blanks for each level; containers without content stay on
one line. -/
def indented (depth : Nat) : Document → String
  | .list [] => "[]"
  | .list items => "[" ++ indentedItems (depth + 1) items ++ lineBreak depth ++ "]"
  | .record [] => "\x7b\x7d"
  | .record fields => "\x7b" ++ indentedFields (depth + 1) fields ++ lineBreak depth ++ "\x7d"
  | .null => "null"
  | .bool value => if value then "true" else "false"
  | .int value => toString value
  | .real literal => literal
  | .text value => quoted value
  | .word literal => literal
  | .unreadable => "null"

def indentedItems (depth : Nat) : List Document → String
  | [] => ""
  | [item] => lineBreak depth ++ indented depth item
  | item :: rest => lineBreak depth ++ indented depth item ++ "," ++ indentedItems depth rest

def indentedFields (depth : Nat) : List (Key × Document) → String
  | [] => ""
  | [(key, value)] => lineBreak depth ++ quoted (nameOf key) ++ ": " ++ indented depth value
  | (key, value) :: rest =>
    lineBreak depth ++ quoted (nameOf key) ++ ": " ++ indented depth value ++ ","
      ++ indentedFields depth rest

end

/-- The document over several lines, with a line break at the end. -/
def page (document : Document) : String :=
  indented 0 document ++ "\n"

end Document

end UltraFabric
