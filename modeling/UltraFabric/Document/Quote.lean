/-
# UltraFabric.Document.Quote — texts in quotes

A text in quotes is read one character at a time. In the strict dialect everything but control
characters stands for itself, and two escapes of sixteen bits may together stand for one character
(`joinPieces`). The relaxed dialect has more escapes, each of them a whole character, and lets a
text go on in the next line: the blanks around a line break are dropped, and the line break itself
is folded (`Gap`).
-/
import UltraFabric.Document.Line
import UltraFabric.Document.Word

namespace UltraFabric.Document

set_option autoImplicit false

/-- How documents may be written. -/
inductive Dialect where
  /-- Commas only separate, and all texts stand in quotes. -/
  | strict
  /-- A comma may stand at the end, and texts may be words. -/
  | relaxed
  deriving DecidableEq, Repr

/-! ### Escapes -/

/-- A piece of a text in quotes: a character, or an escape of sixteen bits. -/
inductive Piece where
  | char (c : Char)
  | unit (code : Nat)
  deriving Repr

/-- Puts the pieces of a text together; none if an escape is half a character only. -/
def joinPieces : List Piece → Option (List Char)
  | [] => some []
  | .char c :: rest => (joinPieces rest).map (c :: ·)
  | .unit high :: .unit low :: rest =>
    if 0xD800 ≤ high ∧ high < 0xDC00 then
      if 0xDC00 ≤ low ∧ low < 0xE000 then
        (joinPieces rest).map
          (Char.ofNat (0x10000 + (high - 0xD800) * 0x400 + (low - 0xDC00)) :: ·)
      else none
    else if 0xDC00 ≤ high ∧ high < 0xE000 then none
    else (joinPieces (.unit low :: rest)).map (Char.ofNat high :: ·)
  | .unit code :: rest =>
    if 0xD800 ≤ code ∧ code < 0xE000 then none
    else (joinPieces rest).map (Char.ofNat code :: ·)

/-- What an escape is, as far as its first letter tells. -/
inductive Escape where
  | char (c : Char)
  /-- A character by its number, in so many digits of base sixteen. -/
  | code (digits : Nat)
  deriving Repr

/-- The escapes of the strict dialect. -/
def strictEscape? : Char → Option Escape
  | '"' => some (.char '"')
  | '\\' => some (.char '\\')
  | '/' => some (.char '/')
  | 'b' => some (.char (Char.ofNat 8))
  | 'f' => some (.char (Char.ofNat 12))
  | 'n' => some (.char '\n')
  | 'r' => some (.char '\r')
  | 't' => some (.char '\t')
  | 'u' => some (.code 4)
  | _ => none

/-- The escapes of the relaxed dialect. -/
def relaxedEscape? (c : Char) : Option Escape :=
  match c with
  | '0' => some (.char (Char.ofNat 0))
  | 'a' => some (.char (Char.ofNat 7))
  | '\t' => some (.char '\t')
  | 'v' => some (.char (Char.ofNat 11))
  | 'e' => some (.char (Char.ofNat 27))
  | ' ' => some (.char ' ')
  | 'N' => some (.char (Char.ofNat 0x85))
  | '_' => some (.char (Char.ofNat 0xA0))
  | 'L' => some (.char (Char.ofNat 0x2028))
  | 'P' => some (.char (Char.ofNat 0x2029))
  | 'x' => some (.code 2)
  | 'U' => some (.code 8)
  | c => strictEscape? c

/-- The piece that an escape by number stands for; in the relaxed dialect it is a character. -/
def Dialect.piece? (dialect : Dialect) (code : Nat) : Option Piece :=
  match dialect with
  | .strict => some (.unit code)
  | .relaxed => if code.isValidChar then some (.char (Char.ofNat code)) else none

/-! ### Reading -/

/-- Where inside a text in quotes the next character stands. -/
inductive Quote.Stage where
  | plain (gap : Gap)
  | escape
  /-- Inside an escape by number: the digits that are left, and the value so far. -/
  | code (left value : Nat)
  deriving Repr

/-- A text in quotes of which the end has not been seen; the pieces are in reverse. -/
structure Quote where
  pieces : List Piece
  stage : Quote.Stage
  deriving Repr

namespace Quote

/-- The state behind the opening quotes. -/
def start : Quote := ⟨[], .plain .none⟩

def push (quote : Quote) (piece : Piece) : Quote :=
  ⟨piece :: quote.pieces, .plain .none⟩

/-- The pieces with a gap behind them. -/
def withGap (quote : Quote) (gap : Gap) : List Piece :=
  gap.folded.map .char ++ quote.pieces

/-- The pieces of a text that ends here, if it may. -/
def close? (quote : Quote) : Option (List Piece) :=
  match quote.stage with
  | .plain gap => some (quote.withGap gap).reverse
  | _ => none

/-- Takes a character that is not the closing quotes, given the one behind it. -/
def step (dialect : Dialect) (quote : Quote) (c : Char) (next : Option Char) : Option Quote :=
  match quote.stage, dialect with
  | .plain gap, .strict =>
    if c = '\\' then some { quote with stage := .escape }
    else if c.toNat < 32 then none
    else some ⟨.char c :: quote.pieces, .plain gap⟩
  | .plain gap, .relaxed =>
    if isHalfBreak c next then some quote
    else if isLineBreak c then some { quote with stage := .plain (gap.lineBreak c) }
    else if isSpace c then some { quote with stage := .plain (gap.space c) }
    else if c = '\\' then some ⟨quote.withGap gap, .escape⟩
    else some ⟨.char c :: quote.withGap gap, .plain .none⟩
  | .escape, .strict =>
    (strictEscape? c).map fun
      | .char c => quote.push (.char c)
      | .code digits => { quote with stage := .code digits 0 }
  | .escape, .relaxed =>
    if isHalfBreak c next then some quote
    else if isLineBreak c then some { quote with stage := .plain (.lines .none []) }
    else
      (relaxedEscape? c).map fun
        | .char c => quote.push (.char c)
        | .code digits => { quote with stage := .code digits 0 }
  | .code left value, dialect =>
    (Word.hexValue? c).bind fun digit =>
      let value := value * 16 + digit
      if left = 1 then (dialect.piece? value).map quote.push
      else some { quote with stage := .code (left - 1) value }

/-- What becomes of a text in quotes with one more character. -/
inductive Progress where
  | going (quote : Quote)
  /-- The character is the closing quotes. -/
  | closed (pieces : List Piece)
  deriving Repr

/-- Takes a character, given the one behind it. -/
def take (dialect : Dialect) (quote : Quote) (c : Char) (next : Option Char) : Option Progress :=
  match (if c = '"' then quote.close? else none) with
  | some pieces => some (.closed pieces)
  | none => (quote.step dialect c next).map .going

end Quote

/-- The value of a text whose pieces are known. -/
def ofPieces (pieces : List Piece) : Document :=
  match joinPieces pieces with
  | some chars => .text (String.ofList chars)
  | none => .unreadable

end UltraFabric.Document
