/-
# UltraFabric.Command — the command line

Two paths name the chip and the netlist; everything else is given by options. A value may follow its
option as the next word, behind an equals sign, or directly behind a short option. Words are gone
through in order: a request for help ends the command line at once, and so does a word that means
nothing; options without a value and options given too often are noticed at the end.
-/
import UltraFabric.Flow

namespace UltraFabric

set_option autoImplicit false

namespace Command

/-- What a command line asks for. -/
inductive Asked where
  | request (request : Request)
  | help
  | version
  /-- It cannot be understood. -/
  | misuse
  deriving DecidableEq, Repr

/-- An option that takes a value. -/
inductive Valued where
  | architecture
  | records
  | setting
  | image
  deriving DecidableEq, Repr

/-- The words gone through so far. -/
structure Words where
  paths : List String
  plainChip : Nat
  values : List (Valued × String)
  /-- The option whose value may be the next word. -/
  pending : Option Valued
  /-- The options that were left without a value. -/
  bare : List Valued
  /-- Whether only paths may follow. -/
  pathsOnly : Bool
  deriving DecidableEq, Repr

/-- No word gone through. -/
def Words.start : Words := ⟨[], 0, [], none, [], false⟩

/-- A word, as far as it can be told from its beginning. -/
inductive Word where
  | separator
  | long (name : List Char) (value : Option (List Char))
  | short (letters : List Char)
  | plain (text : String)
  deriving DecidableEq, Repr

def Word.ofText (text : String) : Word :=
  match text.toList with
  | ['-', '-'] => .separator
  | '-' :: '-' :: rest =>
    let name := rest.takeWhile (· ≠ '=')
    .long name ((rest.drop name.length).tail?)
  | '-' :: c :: rest => .short (c :: rest)
  | _ => .plain text

def valued? (name : List Char) : Option Valued :=
  if name = "uarch".toList then some .architecture
  else if name = "records".toList then some .records
  else if name = "option".toList then some .setting
  else if name = "bitstream".toList then some .image
  else none

/-- An option that waited for a value has none. -/
def Words.drop (words : Words) : Words :=
  { words with pending := none, bare := words.pending.toList ++ words.bare }

def Words.give (words : Words) (option : Valued) (value : List Char) : Words :=
  { words with values := words.values ++ [(option, String.ofList value)] }

def Words.addPath (words : Words) (path : String) : Except Asked Words :=
  if words.paths.length < 2 then .ok { words with paths := words.paths ++ [path] }
  else .error .misuse

/-- Takes the name of an option and the value attached to it. -/
def Words.long (words : Words) (name : List Char) (value : Option (List Char)) :
    Except Asked Words :=
  match valued? name, value with
  | some option, some value => .ok (words.drop.give option value)
  | some option, none => .ok { words.drop with pending := some option }
  | none, none =>
    if name = "raw".toList then .ok { words.drop with plainChip := words.plainChip + 1 }
    else if name = "help".toList then .error .help
    else if name = "version".toList then .error .version
    else .error .misuse
  | none, some _ => .error .misuse

/-- Takes a group of options of one letter. -/
def Words.short (words : Words) : List Char → Except Asked Words
  | [] => .ok words
  | 'o' :: [] => .ok { words.drop with pending := some .setting }
  | 'o' :: '=' :: value => .ok (words.drop.give .setting value)
  | 'o' :: value => .ok (words.drop.give .setting value)
  | 'h' :: _ => .error .help
  | 'V' :: _ => .error .version
  | _ => .error .misuse

/-- Takes one word. -/
def Words.step (words : Words) (text : String) : Except Asked Words :=
  if words.pathsOnly then words.addPath text
  else
    match Word.ofText text with
    | .separator => .ok { words.drop with pathsOnly := true }
    | .long name value => words.long name value
    | .short letters => words.short letters
    | .plain text =>
      match words.pending with
      | some option => .ok ({ words with pending := none }.give option text.toList)
      | none => words.addPath text

/-- All values given to an option. -/
def Words.valuesOf (words : Words) (option : Valued) : List String :=
  (words.values.filter (·.1 = option)).map Prod.snd

/-- Whether an option was left without a value. A setting may be, as long as there is another one
that has a value. -/
def Words.lacksValue (words : Words) : Bool :=
  words.bare.any fun option => option ≠ .setting || (words.valuesOf .setting).isEmpty

/-- What all words ask for together. -/
def Words.finish (words : Words) : Asked :=
  let words := words.drop
  match words.paths, words.valuesOf .architecture, words.valuesOf .records,
    words.valuesOf .image with
  | [chip, netlist], architecture, records, image =>
    if words.lacksValue || 1 < words.plainChip || 1 < architecture.length || 1 < records.length ||
        1 < image.length then .misuse
    else
      .request
        { chip, netlist, plainChip := words.plainChip = 1,
          architecture := architecture.head?.getD "ng-ultra", records := records.head?,
          settings := words.valuesOf .setting, image := image.head? }
  | _, _, _, _ => .misuse

/-- Goes through the words of a command line. -/
def parseFrom (words : Words) : List String → Asked
  | [] => words.finish
  | text :: rest =>
    match words.step text with
    | .error asked => asked
    | .ok words => parseFrom words rest

def parse (arguments : List String) : Asked :=
  parseFrom Words.start arguments

end Command

end UltraFabric
