/-
# UltraFabric.Document.File — documents in files

A file holds a text, compressed or not. Names that end in `.yaml` or `.yml`, one `.gz` behind them
aside, stand for the relaxed dialect, all others for the strict one. Chips are compressed unless they
are asked for as they are; netlists and records are never compressed.

That a file is not compressed shows in what its reader complains of. So a complaint about a text in a
compressed file may be taken for that, if the text says the same (`StoredFile.foreignPhrase`).
-/
import UltraFabric.Compressed
import UltraFabric.Document.Reader
import UltraFabric.Document.Source
import UltraFabric.Text.Chars

namespace UltraFabric

set_option autoImplicit false

/-- What comes out of a file that is taken for a compressed one. -/
inductive Expansion where
  | text (contents : String)
  /-- The file ends too early, or what is in it makes no sense. -/
  | damaged
  /-- The file is not compressed. -/
  | foreign
  deriving DecidableEq, Repr

/-- A file as it is stored. -/
structure StoredFile where
  /-- What is stored, if it is a text. -/
  plain : Option String
  expansion : Expansion
  deriving DecidableEq, Repr

namespace StoredFile

/-- A file that holds a text as it is. No text begins like a compressed file, but a file that is
shorter than the header of one ends too early to tell. -/
def ofText (contents : String) : StoredFile :=
  ⟨some contents,
    if contents.utf8ByteSize < Compressed.headerSize then .damaged else .foreign⟩

/-- A file that holds a text compressed. -/
def ofCompressedText (contents : String) : StoredFile :=
  ⟨none, .text contents⟩

/-- A file that can be opened but not read, such as a directory. -/
def unreadable : StoredFile := ⟨none, .damaged⟩

def ofBytes (bytes : ByteArray) : StoredFile where
  plain := String.fromUTF8? bytes
  expansion :=
    match Compressed.expand bytes with
    | .contents contents => ((String.fromUTF8? contents).map .text).getD .damaged
    | .damaged => .damaged
    | .foreign => .foreign

end StoredFile

/-- Why a file gives no value. -/
inductive FileError where
  | cannotOpen (path : String)
  | cannotDecompress (path : String)
  | malformed (path : String)
  deriving DecidableEq, Repr

def FileError.message : FileError → String
  | .cannotOpen path => "can't open file " ++ path
  | .cannotDecompress path => "failed to decompress " ++ path
  | .malformed path => "failed to parse " ++ path

namespace StoredFile

/-- A path without one `.gz` at its end. -/
def withoutCompression (path : List Char) : List Char :=
  let ending := ".gz".toList
  if ending.isSuffixOf path then path.take (path.length - ending.length) else path

/-- Whether a path names a file in the relaxed dialect. -/
def isRelaxed (path : String) : Bool :=
  let name := withoutCompression path.toList
  ".yaml".toList.isSuffixOf name || ".yml".toList.isSuffixOf name

/-- The dialect of the file at a path. -/
def dialect (path : String) : Document.Dialect :=
  if isRelaxed path then .relaxed else .strict

/-- Reads a value from a text in the dialect of its path. What is wrong with a value counts before
what is wrong with the text behind it. -/
def parse {α : Type} (reader : Document → Reader α) (lexicon : Lexicon) (path contents : String) :
    Except ReadError (α × Lexicon) :=
  let excerpt := Document.Excerpt.ofSource (dialect path) contents
  match excerpt.document with
  | none => .error .malformed
  | some document =>
    match Reader.run reader (dialect path) lexicon document with
    | (.error error, _) => .error error
    | (.ok value, lexicon) =>
      if excerpt.complete then .ok (value, lexicon) else .error .malformed

/-- Reads a value from a file that is stored as it is. -/
def load {α : Type} (reader : Document → Reader α) (lexicon : Lexicon) (path : String)
    (file : Option StoredFile) : Except FileError (α × Lexicon) :=
  match file with
  | none => .error (.cannotOpen path)
  | some file =>
    match file.plain.map (parse reader lexicon path) with
    | some (.ok value) => .ok value
    | _ => .error (.malformed path)

/-- What a reader of compressed files says of a file that is not compressed. -/
def foreignPhrase : String := "invalid gzip header"

/-- What is wrong with a compressed file whose text has no value. -/
def compressedError (path : String) : ReadError → FileError
  | .malformed => .malformed path
  | .unexpected text =>
    if Text.contains foreignPhrase text then .cannotDecompress path else .malformed path

/-- Reads a value from a compressed file. -/
def loadCompressed {α : Type} (reader : Document → Reader α) (lexicon : Lexicon) (path : String)
    (file : Option StoredFile) : Except FileError (α × Lexicon) :=
  match file with
  | none => .error (.cannotOpen path)
  | some file =>
    match file.expansion with
    | .text contents => (parse reader lexicon path contents).mapError (compressedError path)
    | .damaged => .error (.malformed path)
    | .foreign => .error (.cannotDecompress path)

end StoredFile

end UltraFabric
