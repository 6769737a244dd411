/-
# UltraFabric.Voltage — voltages as text

Voltages are compared as texts with one decimal place and the letter V. `normalize?` brings the
spellings of constraint files into this form: it takes the first part of a text that is a number,
with or without the letter behind it. `Cell.voltage?` is the voltage that a pad asks of its bank.
-/
import UltraFabric.Netlist
import UltraFabric.Number.Single
import UltraFabric.Text.Chars

namespace UltraFabric

set_option autoImplicit false

namespace Voltage

/-- What stands between the parts of a standard's name. -/
def isSeparator (c : Char) : Bool :=
  c = '_' || c = '-' || c = ' '

/-- A text without one letter V at its end. -/
def withoutUnit (part : List Char) : List Char :=
  match part.reverse with
  | 'V' :: rest => rest.reverse
  | 'v' :: rest => rest.reverse
  | _ => part

/-- The text of a voltage. -/
def text (value : Number.Single) : String :=
  value.toTenths ++ "V"

/-- The first part of a text that is a number, as a voltage. -/
def normalize? (written : String) : Option String :=
  ((Text.splitWhere isSeparator written.toList).findSome? fun part =>
    Number.Single.read (withoutUnit part)).map text

/-- Whether a part of a standard's name ends in the letter V. -/
def endsInUnit (part : List Char) : Bool :=
  match part.reverse with
  | 'V' :: _ => true
  | 'v' :: _ => true
  | _ => false

/-- The voltage in the name of a standard: only parts with the letter count. -/
def ofStandard? (standard : String) : Option String :=
  ((Text.splitWhere (· = '_') standard.toList).filter endsInUnit).findSome? fun part =>
    normalize? (String.ofList part)

end Voltage

/-- The voltage that a cell asks of its bank: the one it names, or that of its standard. -/
def Cell.voltage? (cell : Cell) : Option String :=
  match cell.params["voltage"]? with
  | some value => Voltage.normalize? value.asText
  | none => cell.params["standard"]?.bind fun standard => Voltage.ofStandard? standard.asText

end UltraFabric
