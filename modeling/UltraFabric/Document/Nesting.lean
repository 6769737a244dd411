/-
# UltraFabric.Document.Nesting — putting tokens together

Tokens become one document with the help of a stack of the lists and records that are still open.
`Assembly.step` takes one token; what may come next is part of the state, so a text is a document
exactly when all its tokens are taken and one finished value remains. In the relaxed dialect a comma
may stand at the end, a value may be missing behind its name, and one field in a list is a record.

Who reads a document may stumble over something before the place where its text goes wrong, and
then only the first of the two is told. So a text that is not a document still has an `Excerpt`:
what stands before that place, with everything closed that is open there.
-/
import UltraFabric.Document.Bracketed

namespace UltraFabric.Document

set_option autoImplicit false

/-- A list or record that is still open; its parts are kept in reverse. -/
inductive Open where
  | list (items : List Document)
  /-- The fields so far, and the name of the one whose value has not been read. -/
  | record (fields : List (Key × Document)) (pending : Option Key)
  /-- A record without brackets: one field in a list. -/
  | field (pending : Option Key)
  deriving Repr

/-- What the next token has to be. -/
inductive Expected where
  /-- A value, or the end of a list when that is allowed. -/
  | value (mayClose : Bool)
  /-- A field, or the end of the record when that is allowed. -/
  | field (mayClose : Bool)
  /-- The name of a field. -/
  | name
  | colon
  /-- A comma or a closing mark. -/
  | separator
  /-- Nothing: the document is complete. -/
  | finished (document : Document)
  deriving Repr

structure Assembly where
  stack : List Open
  expected : Expected
  deriving Repr

/-- What a text says, as far as it could be read, and whether that is all of it. -/
structure Excerpt where
  document : Option Document
  complete : Bool
  deriving Repr

namespace Assembly

/-- Nothing put together yet. -/
def start : Assembly := ⟨[], .value false⟩

/-- Adds a finished value to the innermost open list or record. -/
def add : List Open → Document → Option Assembly
  | [], value => some ⟨[], .finished value⟩
  | .list items :: outer, value => some ⟨.list (value :: items) :: outer, .separator⟩
  | .record fields (some key) :: outer, value =>
    some ⟨.record ((key, value) :: fields) none :: outer, .separator⟩
  | .field (some key) :: outer, value => add outer (.record [(key, value)])
  | .record _ none :: _, _ | .field none :: _, _ => none

/-- The name that a scalar gives to a field. -/
def key? : Document → Option Key
  | .text key => some (.text key)
  | .word key => some (.word key)
  | .unreadable => some .unreadable
  | _ => none

/-- Takes the name of a field. -/
def setName (stack : List Open) (value : Document) : Option Assembly :=
  match stack, key? value with
  | .record fields _ :: outer, some key => some ⟨.record fields (some key) :: outer, .colon⟩
  | .field _ :: outer, some key => some ⟨.field (some key) :: outer, .colon⟩
  | _, _ => none

/-- Closes the innermost list or record. -/
def close (assembly : Assembly) (token : Token) : Option Assembly :=
  match assembly.stack, token with
  | .list items :: outer, .closeList => add outer (.list items.reverse)
  | .record fields none :: outer, .closeRecord => add outer (.record fields.reverse)
  | _, _ => none

/-- What may stand behind a comma. -/
def afterComma (dialect : Dialect) : List Open → Option Expected
  | .list _ :: _ => some (.value (dialect = .relaxed))
  | .record .. :: _ => some (.field (dialect = .relaxed))
  | _ => none

/-- Takes what stands behind a value. -/
def separate (dialect : Dialect) (assembly : Assembly) (token : Token) : Option Assembly :=
  match token with
  | .comma =>
    (afterComma dialect assembly.stack).map fun expected => { assembly with expected }
  | token => assembly.close token

/-- Takes what stands behind a name in place of a value. Only the relaxed dialect lets a value be
missing: there it is the word without letters. -/
def withoutValue (dialect : Dialect) (stack : List Open) (token : Token) : Option Assembly :=
  match dialect, stack with
  | .relaxed, .record _ (some _) :: _ | .relaxed, .field (some _) :: _ =>
    (add stack (.word "")).bind (·.separate dialect token)
  | _, _ => none

/-- Takes what stands behind a name. -/
def afterName (dialect : Dialect) (assembly : Assembly) (token : Token) : Option Assembly :=
  match token with
  | .colon => some { assembly with expected := .value false }
  | token => withoutValue dialect assembly.stack token

/-- Takes a field that does not begin with `Token.name`: in the relaxed dialect it has no value. -/
def bareName (dialect : Dialect) (stack : List Open) (value : Document) : Option Assembly :=
  (setName stack value).bind fun named =>
    match dialect with
    | .strict => some named
    | .relaxed => add named.stack (.word "")

/-- Takes one token. -/
def step (dialect : Dialect) (assembly : Assembly) (token : Token) : Option Assembly :=
  match assembly.expected, token with
  | .value _, .scalar value => add assembly.stack value
  | .value _, .openList => some ⟨.list [] :: assembly.stack, .value true⟩
  | .value _, .openRecord => some ⟨.record [] none :: assembly.stack, .field true⟩
  | .value true, .name => some ⟨.field none :: assembly.stack, .name⟩
  | .value true, .closeList | .field true, .closeRecord => assembly.close token
  | .value false, token => withoutValue dialect assembly.stack token
  | .field _, .name => some { assembly with expected := .name }
  | .field _, .scalar value => bareName dialect assembly.stack value
  | .name, .scalar value => setName assembly.stack value
  | .name, token => (setName assembly.stack (.word "")).bind (·.afterName dialect token)
  | .colon, token => assembly.afterName dialect token
  | .separator, token => assembly.separate dialect token
  | _, _ => none

/-- Closes everything that is open around what has been read of a value. A field whose value is
missing is kept for its name. -/
def closeAll : List Open → Option Document → Option Document
  | [], inner => inner
  | .list items :: outer, inner => closeAll outer (some (.list (inner.toList ++ items).reverse))
  | .record fields pending :: outer, inner =>
    let last := pending.map fun key => (key, inner.getD .unreadable)
    closeAll outer (some (.record (last.toList ++ fields).reverse))
  | .field pending :: outer, inner =>
    let only := pending.map fun key => (key, inner.getD .unreadable)
    closeAll outer (some (.record only.toList))

/-- What has been put together. -/
def excerpt (assembly : Assembly) (complete : Bool) : Excerpt :=
  match assembly.expected with
  | .finished document => ⟨some document, complete⟩
  | _ => ⟨closeAll assembly.stack none, false⟩

/-- Puts tokens together, given whether they are all there are. -/
def run (dialect : Dialect) (complete : Bool) : Assembly → List Token → Excerpt
  | assembly, [] => assembly.excerpt complete
  | assembly, token :: rest =>
    match assembly.step dialect token with
    | some next => run dialect complete next rest
    | none => assembly.excerpt false

end Assembly

/-- What a text says in the strict dialect. -/
def Excerpt.ofText (text : List Char) : Excerpt :=
  let (tokens, complete) := Scan.run .start text
  Assembly.run .strict complete .start tokens

/-- What a text with brackets says in the relaxed dialect, given whether it is `whole`. -/
def Excerpt.ofBracketed (whole : Bool) (text : List Char) : Excerpt :=
  let (tokens, complete) := Bracketed.Scan.run whole .start text
  Assembly.run .relaxed complete .start tokens

/-- The document that a text writes in the strict dialect, if it writes one. -/
def ofText? (text : String) : Option Document :=
  let excerpt := Excerpt.ofText text.toList
  if excerpt.complete then excerpt.document else none

end UltraFabric.Document
