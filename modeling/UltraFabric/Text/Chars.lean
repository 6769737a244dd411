/-
# UltraFabric.Text.Chars — cutting and replacing inside names

Names are cut at separators, searched for a piece and cut after a number of bytes. All of it is done
on lists of characters: `splitWhere` cuts at every separator (`flatten_splitWhere`: nothing but the
separators is lost), `replaceAll` replaces from left to right, and `takeBytes` knows that a cut may
fall inside a character, where it has no result.
-/
namespace UltraFabric.Text

set_option autoImplicit false

/-- The pieces between the characters that satisfy `separator`; always at least one piece. -/
def splitWhere (separator : Char → Bool) : List Char → List (List Char)
  | [] => [[]]
  | c :: rest =>
    if separator c then
      [] :: splitWhere separator rest
    else
      match splitWhere separator rest with
      | [] => [[c]]
      | piece :: pieces => (c :: piece) :: pieces

theorem splitWhere_ne_nil (separator : Char → Bool) (text : List Char) :
    splitWhere separator text ≠ [] := by
  cases text with
  | nil => simp [splitWhere]
  | cons c rest =>
      unfold splitWhere
      split
      · simp
      · split <;> simp

/-- Cutting loses the separators and nothing else. -/
theorem flatten_splitWhere (separator : Char → Bool) (text : List Char) :
    (splitWhere separator text).flatten = text.filter (! separator ·) := by
  induction text with
  | nil => rfl
  | cons c rest ih =>
      unfold splitWhere
      by_cases h : separator c
      · simp [h, ih]
      · cases pieces : splitWhere separator rest with
        | nil => exact absurd pieces (splitWhere_ne_nil separator rest)
        | cons piece more => simp_all

/-- A line without the carriage return that may stand at its end. -/
def withoutReturn (line : List Char) : List Char :=
  match line.reverse with
  | '\r' :: rest => rest.reverse
  | _ => line

/-- The lines of a text, the breaks between them left out; always at least one line. -/
def lines (text : String) : List String :=
  (splitWhere (· = '\n') text.toList).map fun line => String.ofList (withoutReturn line)

/-- Replaces `old`, which is not empty, skipping the first `skip` characters. -/
def replaceFrom (old new : List Char) : Nat → List Char → List Char
  | _, [] => []
  | skip + 1, _ :: rest => replaceFrom old new skip rest
  | 0, c :: rest =>
    if old.isPrefixOf (c :: rest) then
      new ++ replaceFrom old new (old.length - 1) rest
    else
      c :: replaceFrom old new 0 rest

/-- Every occurrence of `old`, from left to right and without overlap, becomes `new`. -/
def replaceAll (old new text : String) : String :=
  String.ofList (replaceFrom old.toList new.toList 0 text.toList)

def startsWith (start text : String) : Bool :=
  start.toList.isPrefixOf text.toList

def endsWith (ending text : String) : Bool :=
  ending.toList.isSuffixOf text.toList

/-- Whether `piece` stands somewhere in a text. -/
def occursIn (piece : List Char) : List Char → Bool
  | [] => piece.isEmpty
  | c :: rest => piece.isPrefixOf (c :: rest) || occursIn piece rest

def contains (piece text : String) : Bool :=
  occursIn piece.toList text.toList

/-- What stands before the first occurrence of a piece; everything, if there is none. -/
def before (piece : List Char) : List Char → List Char
  | [] => []
  | c :: rest => if piece.isPrefixOf (c :: rest) then [] else c :: before piece rest

def upTo (piece : String) (text : List Char) : String :=
  String.ofList (before piece.toList text)

/-- What stands before and after the last `c`, if there is one. -/
def splitAtLast? (c : Char) (text : List Char) : Option (List Char × List Char) :=
  if text.contains c then
    let back := text.reverse
    let after := back.takeWhile (· != c)
    some ((back.drop (after.length + 1)).reverse, after.reverse)
  else
    none

/-- How many bytes a text takes when it is stored. -/
def byteCount : List Char → Nat
  | [] => 0
  | c :: rest => c.utf8Size + byteCount rest

/-- The first `count` bytes; none when they are not there or end inside a character. -/
def takeBytes : Nat → List Char → Option (List Char)
  | 0, _ => some []
  | _ + 1, [] => none
  | count + 1, c :: rest =>
    if c.utf8Size ≤ count + 1 then
      (takeBytes (count + 1 - c.utf8Size) rest).map (c :: ·)
    else
      none

/-- What follows the first `count` bytes; none when they are not there or end inside a character. -/
def dropBytes (count : Nat) (text : List Char) : Option (List Char) :=
  (takeBytes count text).map fun start => text.drop start.length

end UltraFabric.Text
