/-
# UltraFabric.ConfigRecord — constraints on banks and pads

A record sets the voltage of a bank, or assigns the pads of the design with some name to a location
and sets their electrical properties. Records are applied in order, and a location may be assigned only
once in a list. A record that is refused ends the list. It hands on the plan as it has left it, like one
that is applied, so that what it leaves is a matter of what it did before it was refused.
-/
import UltraFabric.Notice
import UltraFabric.Plan

namespace UltraFabric

set_option autoImplicit false

/-- Where the pads with some name belong, and how they are set. -/
structure PadRecord where
  pad : String
  location : String
  standard : Option String
  drive : Option String
  slewRate : Option String
  termination : Option String
  weakTermination : Option String
  inputDelayLine : Option String
  outputDelayLine : Option String
  differential : Option Bool
  deriving DecidableEq, Repr

inductive ConfigRecord where
  | bankVoltage (bank voltage : String)
  | padLocation (record : PadRecord)
  deriving DecidableEq, Repr

/-- Why a record cannot be applied. -/
inductive RecordError where
  | unknownBank (bank : String)
  | invalidChoice (what value : String) (choices : List String)
  | assignedTwice (location : String)
  | unknownLocation (pad location : String)
  deriving DecidableEq, Repr

def RecordError.message : RecordError → String
  | .unknownBank bank => s!"invalid configuration record: unknown bank {bank}"
  | .invalidChoice what value choices =>
    "invalid configuration record: " ++ what ++ " `" ++ value ++ "` is not one of "
      ++ String.intercalate ", " choices
  | .assignedTwice location =>
    s!"invalid configuration record: location {location} is assigned twice"
  | .unknownLocation pad location => s!"unknown location {location} for {pad}"

namespace ConfigRecord

def bankVoltages : List String := ["1.2V", "1.5V", "1.8V", "2.5V", "3.3V"]

/-- The standards by the beginnings of their names. -/
def standards : List String := ["LVDS", "LVCMOS", "SSTL", "HSSTL", "HSTL"]

def drives : List String :=
  ["2mA", "4mA", "8mA", "16mA", "CatI", "CatII", "CatIII", "CatIV", "Undefined"]

def slewRates : List String := ["Slow", "Medium", "Fast"]

/-- The choice that a record makes, if it is not one of those that are allowed. -/
def choiceError? (what : String) (allowed : String → String → Bool) (choices : List String)
    (value : Option String) : Option RecordError :=
  value.bind fun value =>
    if choices.any fun choice => allowed choice value then none
    else some (.invalidChoice what value choices)

/-- Whether a choice is made by its full name. -/
def same (choice value : String) : Bool :=
  choice = value

/-- The voltage that a record gives a bank, in the form in which voltages are compared. -/
def givenVoltage (written : String) : String :=
  (Voltage.normalize? written).getD written

end ConfigRecord

namespace PadRecord

/-- The first choice of a record that is not allowed. -/
def choiceError? (record : PadRecord) : Option RecordError :=
  (ConfigRecord.choiceError? "standard" Text.startsWith ConfigRecord.standards record.standard).or <|
  (ConfigRecord.choiceError? "drive" ConfigRecord.same ConfigRecord.drives record.drive).or <|
  ConfigRecord.choiceError? "slew rate" ConfigRecord.same ConfigRecord.slewRates record.slewRate

def textSetting (key : String) (value : Option String) : List (String × Property) :=
  (value.map fun value => (key, Property.text value)).toList

/-- The parameters that a record sets. -/
def settings (record : PadRecord) : List (String × Property) :=
  ("location", .text record.location) ::
    (textSetting "standard" record.standard ++ textSetting "drive" record.drive ++
      textSetting "slewRate" record.slewRate ++ textSetting "termination" record.termination ++
      textSetting "weakTermination" record.weakTermination ++
      textSetting "inputDelayLine" record.inputDelayLine ++
      textSetting "outputDelayLine" record.outputDelayLine ++
      (record.differential.map fun value => ("differential", Property.bool value)).toList)

/-- Whether a cell is one of the pads that a record is about. -/
def concerns (record : PadRecord) (cell : Cell) : Bool :=
  Primitive.isPad cell.type &&
    (match cell.params["iobname"]? with
      | some name => name.asText = record.pad
      | none => false)

/-- A pad with the settings of a record, and with the bel it has to be on. -/
def applyTo (record : PadRecord) (bel : BelId) (cell : Cell) : Cell :=
  { record.settings.foldl (fun cell (key, value) => cell.setParam key value) cell with
    required := some bel }

end PadRecord

namespace Plan

def setBank (plan : Plan) (bank voltage : String) : Plan :=
  { plan with
    fabric := { plan.fabric with bankVoltage := plan.fabric.bankVoltage.insert bank voltage } }

/-- Sets the voltage of a bank, and says whether that was refused. -/
def applyBankVoltage (plan : Plan) (bank voltage : String) : Plan × Except RecordError Unit :=
  if bank ∉ plan.fabric.tables.banks then (plan, .error (.unknownBank bank))
  else
    let normal := ConfigRecord.givenVoltage voltage
    match ConfigRecord.choiceError? "voltage" ConfigRecord.same ConfigRecord.bankVoltages
      (some normal) with
    | some error => (plan, .error error)
    | none => (plan.setBank bank normal, .ok ())

/-- Applies a record to every pad that it is about. -/
def setPads (plan : Plan) (record : PadRecord) (bel : BelId) : Plan :=
  let netlist := plan.layout.netlist
  let cells := netlist.cells.map fun _ cell =>
    if record.concerns cell then record.applyTo bel cell else cell
  { plan with layout := { plan.layout with netlist := { netlist with cells } } }

/-- Assigns pads to a location, and says whether that was refused; a name that no pad has is only
noted. -/
def applyPadRecord (plan : Plan) (record : PadRecord) :
    Plan × List Notice × Except RecordError Unit :=
  match plan.fabric.tables.pads[record.location]? with
  | none => (plan, [], .error (.unknownLocation record.pad record.location))
  | some bel =>
    match record.choiceError? with
    | some error => (plan, [], .error error)
    | none =>
      let plan := plan.mention "iobname"
      if plan.layout.netlist.cellList.any record.concerns then
        let plan := (record.settings.map Prod.fst).foldl mention plan
        (plan.setPads record bel, [], .ok ())
      else (plan, [.padNotFound record.pad record.location], .ok ())

/-- Applies one record, given the locations that were assigned before; the answer has those that are
assigned now. -/
def applyRecord (plan : Plan) (claimed : List String) :
    ConfigRecord → Plan × List Notice × Except RecordError (List String)
  | .bankVoltage bank voltage =>
    match plan.applyBankVoltage bank voltage with
    | (plan, .error error) => (plan, [], .error error)
    | (plan, .ok ()) => (plan, [], .ok claimed)
  | .padLocation record =>
    if claimed.contains record.location then (plan, [], .error (.assignedTwice record.location))
    else
      match plan.applyPadRecord record with
      | (plan, notices, .error error) => (plan, notices, .error error)
      | (plan, notices, .ok ()) => (plan, notices, .ok (record.location :: claimed))

/-- Applies records in order, up to the first that is refused; what that one has done by then stays. -/
def applyRecordsFrom (plan : Plan) (claimed : List String) (notices : List Notice) :
    List ConfigRecord → Plan × List Notice × Except RecordError Unit
  | [] => (plan, notices, .ok ())
  | record :: rest =>
    match plan.applyRecord claimed record with
    | (plan, more, .error error) => (plan, notices ++ more, .error error)
    | (plan, more, .ok claimed) => applyRecordsFrom plan claimed (notices ++ more) rest

def applyRecords (plan : Plan) (records : List ConfigRecord) :
    Plan × List Notice × Except RecordError Unit :=
  plan.applyRecordsFrom [] [] records

end Plan

end UltraFabric
