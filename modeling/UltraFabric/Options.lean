/-
# UltraFabric.Options — settings of the architecture

Settings are given as `KEY=VALUE`, or as a bare key that stands for a flag that is on. `Arguments`
keeps them as texts, the last one of each key; `Options.ofArguments` reads the known ones and refuses
the first key that is not known.
-/
import UltraFabric.Clock.Buffers
import UltraFabric.Number.Whole
import UltraFabric.Text.Blank
import UltraFabric.Text.Chars

namespace UltraFabric

set_option autoImplicit false

/-- A setting that cannot be used. -/
structure OptionError where
  key : String
  value : String
  reason : String
  deriving DecidableEq, Repr

def OptionError.message (error : OptionError) : String :=
  s!"invalid option {error.key}={error.value}: {error.reason}"

/-- Settings as texts. -/
structure Arguments where
  values : Std.ExtTreeMap String String
  deriving DecidableEq

namespace Arguments

/-- The key and the value of a setting; blanks around both do not count. -/
def split? (setting : String) : Option (String × String) :=
  let chars := setting.toList
  let key := chars.takeWhile (· != '=')
  match chars.drop key.length with
  | _ :: value =>
    if key.isEmpty then none
    else some (Text.trim (String.ofList key), Text.trim (String.ofList value))
  | [] => if key.isEmpty then none else some (Text.trim setting, "1")

def add (arguments : Arguments) : List String → Except OptionError Arguments
  | [] => .ok arguments
  | setting :: rest =>
    match split? setting with
    | none => .error ⟨setting, "", "expected KEY=VALUE"⟩
    | some (key, value) => add ⟨arguments.values.insert key value⟩ rest

def ofSettings (settings : List String) : Except OptionError Arguments :=
  add ⟨∅⟩ settings

def keys (arguments : Arguments) : List String :=
  arguments.values.keys

def get? (arguments : Arguments) (key : String) : Option String :=
  arguments.values[key]?

/-- The value of a key in some reading, or a default when the key is not given. -/
def parse {α : Type} (arguments : Arguments) (read : String → Except String α) (key : String)
    (default : α) : Except OptionError α :=
  match arguments.get? key with
  | none => .ok default
  | some value =>
    match read value with
    | .ok result => .ok result
    | .error reason => .error ⟨key, value, reason⟩

/-- Reads a whole number of some format. -/
def readNumber (format : Number.WholeFormat) (value : String) : Except String Int :=
  match Number.readWhole format value.toList with
  | .ok number => .ok number
  | .error error => .error error.message

def readFlag (value : String) : Except String Bool :=
  if ["1", "true", "yes", "on"].contains value then .ok true
  else if ["0", "false", "no", "off"].contains value then .ok false
  else .error "expected a boolean"

def number (arguments : Arguments) (key : String) (default : Int) : Except OptionError Int :=
  arguments.parse (readNumber Number.signed32Bit) key default

def flag (arguments : Arguments) (key : String) (default : Bool) : Except OptionError Bool :=
  arguments.parse readFlag key default

end Arguments

/-- The names of the two ways to choose a buffer. -/
def BufferChoice.ofText (value : String) : Except String BufferChoice :=
  if ["first-fit", "first_fit", "firstfit"].contains value then .ok .firstFit
  else if value = "nearest" then .ok .nearest
  else .error "expected `first-fit` or `nearest`"

/-- The settings of the architecture. -/
structure Options where
  bufferChoice : BufferChoice
  /-- Tiles added on each side of a routing box. -/
  boxMargin : Int
  delayBase : Int
  delayPerX : Int
  delayPerY : Int
  delayLocal : Int
  delayCascade : Int
  /-- Whether clock paths are reserved before general routing. -/
  lowSkew : Bool
  deriving DecidableEq, Repr

namespace Options

def standard : Options where
  bufferChoice := .firstFit
  boxMargin := 8
  delayBase := 120
  delayPerX := 18
  delayPerY := 22
  delayLocal := 40
  delayCascade := 10
  lowSkew := true

def knownKeys : List String :=
  ["gck_select", "bbox_margin", "delay_base", "delay_per_x", "delay_per_y", "delay_local",
    "delay_cascade", "lowskew"]

def ofArguments (arguments : Arguments) : Except OptionError Options :=
  match arguments.keys.find? fun key => ! knownKeys.contains key with
  | some key =>
    .error ⟨key, (arguments.get? key).getD "",
      "known options are " ++ String.intercalate ", " knownKeys⟩
  | none => do
    let bufferChoice ← arguments.parse BufferChoice.ofText "gck_select" standard.bufferChoice
    let boxMargin ← arguments.number "bbox_margin" standard.boxMargin
    let delayBase ← arguments.number "delay_base" standard.delayBase
    let delayPerX ← arguments.number "delay_per_x" standard.delayPerX
    let delayPerY ← arguments.number "delay_per_y" standard.delayPerY
    let delayLocal ← arguments.number "delay_local" standard.delayLocal
    let delayCascade ← arguments.number "delay_cascade" standard.delayCascade
    let lowSkew ← arguments.flag "lowskew" standard.lowSkew
    return { bufferChoice, boxMargin, delayBase, delayPerX, delayPerY, delayLocal, delayCascade,
             lowSkew }

end Options

end UltraFabric
