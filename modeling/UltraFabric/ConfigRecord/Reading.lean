/-
# UltraFabric.ConfigRecord.Reading — records from documents

A record says by its `kind` which fields it has. That may stand behind the fields, so they are kept
until it is known (`Document.keep?`): all texts have to be texts by then, not words with another
meaning. A field is known by its name; a number without quotes counts the fields from zero.
-/
import UltraFabric.ConfigRecord
import UltraFabric.Document.Keeping
import UltraFabric.Document.Reader

namespace UltraFabric

set_option autoImplicit false

open Reader

namespace ConfigRecord

/-- A text, not a word. -/
def settledText : Document → Reader String
  | .text value => pure value
  | _ => fail

/-- The fields of a record about a bank, in order. -/
def bankVoltageFields : List String := ["bank", "voltage"]

/-- The fields of a record about pads, in order. -/
def padFields : List String :=
  ["iobname", "location", "standard", "drive", "slew_rate", "termination", "weak_termination",
    "input_delay_line", "output_delay_line", "differential"]

def readBankVoltage : Document → Reader (String × String) :=
  record ["bank", "voltage"] ("", "") fun
    | "bank" => some fun document value => do return (← settledText document, value.2)
    | "voltage" => some fun document value => do return (value.1, ← settledText document)
    | _ => none

def readPadRecord : Document → Reader PadRecord :=
  record ["iobname", "location"] ⟨"", "", none, none, none, none, none, none, none, none⟩ fun
    | "iobname" => some fun document pad => do return { pad with pad := ← settledText document }
    | "location" => some fun document pad => do
      return { pad with location := ← settledText document }
    | "standard" => some fun document pad => do
      return { pad with standard := ← optional settledText document }
    | "drive" => some fun document pad => do
      return { pad with drive := ← optional settledText document }
    | "slew_rate" => some fun document pad => do
      return { pad with slewRate := ← optional settledText document }
    | "termination" => some fun document pad => do
      return { pad with termination := ← optional settledText document }
    | "weak_termination" => some fun document pad => do
      return { pad with weakTermination := ← optional settledText document }
    | "input_delay_line" => some fun document pad => do
      return { pad with inputDelayLine := ← optional settledText document }
    | "output_delay_line" => some fun document pad => do
      return { pad with outputDelayLine := ← optional settledText document }
    | "differential" => some fun document pad => do
      return { pad with differential := ← optional bool document }
    | _ => none

/-! ### Fields by name and number -/

/-- Whether a field says what its record is about. -/
def isKind (field : Key × Document) : Bool :=
  field.1 = .text "kind" || field.1 = .word "kind"

/-- The name of a field, or its number among the `names`. -/
def fieldName (names : List String) : Key → Reader (Option String)
  | .text name => pure (some name)
  | .word literal => do return names[← orFail (Document.Word.unsigned? literal.toList)]?
  | .unreadable => fail

/-- Fields that are known by their names alone; what is no field is left out. -/
def named (names : List String) (fields : List (Key × Document)) : Reader Document := do
  let fields ← fields.mapM fun (key, value) => do
    return (← fieldName names key).map fun name => (Key.text name, value)
  return .record (fields.filterMap id)

/-- How deep lists and records in a field may be nested: the field is in a record, and that is in a
list. -/
def room (dialect : Document.Dialect) : Nat :=
  dialect.depth - 2

def read (document : Document) : Reader ConfigRecord := do
  let fields ← fields document
  let rest := fields.filter fun field => ! isKind field
  let kept ← orFail (Document.keepFields? (room (← MonadReader.read)) rest)
  match fields.filter isKind with
  | [(_, kind)] =>
    match ← text kind with
    | "bank_voltage" =>
      let (bank, voltage) ← readBankVoltage (← named bankVoltageFields kept)
      return .bankVoltage bank voltage
    | "io_location" => return .padLocation (← readPadRecord (← named padFields kept))
    | _ => fail
  | _ => fail

/-- The records of a file. -/
def readAll : Document → Reader (List ConfigRecord) :=
  list read

def optionalText (value : Option String) : Document :=
  match value with
  | some value => .text value
  | none => .null

/-- A record with all its fields, those without a value included. -/
def toDocument : ConfigRecord → Document
  | .bankVoltage bank voltage =>
    .ofFields [("kind", .text "bank_voltage"), ("bank", .text bank), ("voltage", .text voltage)]
  | .padLocation record =>
    .ofFields [("kind", .text "io_location"), ("iobname", .text record.pad),
      ("location", .text record.location), ("standard", optionalText record.standard),
      ("drive", optionalText record.drive), ("slew_rate", optionalText record.slewRate),
      ("termination", optionalText record.termination),
      ("weak_termination", optionalText record.weakTermination),
      ("input_delay_line", optionalText record.inputDelayLine),
      ("output_delay_line", optionalText record.outputDelayLine),
      ("differential", match record.differential with
        | some value => .bool value
        | none => .null)]

end ConfigRecord

end UltraFabric
