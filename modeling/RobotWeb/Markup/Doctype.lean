import RobotWeb.Markup.Tag

/-!
# Document types

The internal subset of a document type, read for the entities that it defines. Declarations of
elements, attributes and notations are skipped, and an external entity has an empty text because
nothing is fetched.
-/

namespace RobotWeb.Markup

def skipDeclaration (s : Source) : Reading Unit s := do
  let (_, rest) ← s.upTo .tagEnd
  pure ((), rest)

/-- Reads a semicolon. In a quoted text of a document type it is a character like others. -/
def semicolon (s : Source) : Reading Unit s := do
  let (t, rest) ← s.token
  if t = .referenceEnd || t = .char ';' then pure ((), rest)
  else throw (.misplaced (String.ofList t.chars))

/-- Reads the name of a parameter entity after its percent sign, up to the semicolon. -/
def parameterReference (s : Source) : Reading String s := do
  let (name, beforeEnd) := s.take isNameChar
  let (_, rest) ← semicolon beforeEnd.val
  pure ("%" ++ String.ofList name, beforeEnd.andThen rest)

/-- Reads the replacement text of a parameter entity. -/
def parameterText (d : Dialect) (s : Source) : Reading String s := do
  let (name, rest) ← parameterReference s
  match d.entity? name with
  | some text => pure (text, rest)
  | none => throw (.unknownEntity name)

/-- Reads the number of a character after its `#`. -/
def numberedCharacter (d : Dialect) (s : Source) : Reading Char s := do
  let (number, beforeEnd) := s.take (· != ';')
  let (_, rest) ← semicolon beforeEnd.val
  match d.numbered? number with
  | some c => pure (c, beforeEnd.andThen rest)
  | none => throw (.invalidReference (String.ofList number))

/-- Requires a character that the document may hold. -/
def requireChar (d : Dialect) (c : Char) : Except Malformed Unit :=
  if d.version.isChar c then .ok () else .error (.invalidCharacter c)

/-- Reads what an ampersand in the value of an entity stands for: a numbered character, or itself
together with the character that follows, which no longer has a meaning of its own. -/
def ampersandInValue (d : Dialect) (s : Source) : Reading (List Char) s := do
  match ← s.token with
  | (.char '#', rest) => do
    let (c, left) ← numberedCharacter d rest.val
    pure ([c], rest.andThen left)
  | (.char c, rest) => do
    requireChar d c
    pure (['&', c], rest)
  | (t, _) => throw (.misplaced (String.ofList t.chars))

/-- Reads a piece of the value of an entity. References to characters and to parameter entities
are replaced, those to other entities are kept. -/
def valuePiece (d : Dialect) (s : Source) : Reading (List Char) s := do
  match ← s.token with
  | (.char '%', rest) => do
    let (text, left) ← parameterText d rest.val
    pure (text.toList, rest.andThen left)
  | (.char '&', rest) => do
    let (text, left) ← ampersandInValue d rest.val
    pure (text, rest.andThen left)
  | (.char c, rest) => do
    requireChar d c
    pure ([c], rest)
  | (t, _) => throw (.misplaced (String.ofList t.chars))

/-- Reads the rest of the value of an entity, up to the closing quote; `value` holds what has
been read, latest first. -/
def entityValue (d : Dialect) (mark : Char) {whole : Source} (value : List Char)
    (s : Remainder whole) : Reading String whole :=
  match s.val.token with
  | .error e => .error e
  | .ok (t, rest) =>
    if t = .quote mark then .ok (String.ofList value.reverse, s.andThen rest)
    else
      match valuePiece d s.val with
      | .error e => .error e
      | .ok (text, left) =>
        entityValue d mark (text.reverse ++ value) (s.andThen left).weaken
termination_by s.val.chars.length
decreasing_by exact left.property

/-- Reads the name of an entity to be defined, which `mark` is put in front of. -/
def entityName (mark : String) (s : Source) : Except Malformed (String × Remainder s) := do
  let (name, rest) := s.take isNameChar
  if startsWith isNameStart name && rest.val.startsWithSpace then
    return (mark ++ String.ofList name, rest.andMaybe rest.val.skipSpace)
  else throw (.invalidName (String.ofList name))

/-- Reads the name of an entity to be defined; a percent sign makes it a parameter entity. -/
def definedName (s : Source) : Except Malformed (String × Remainder s) := do
  let beforeName := s.skipSpace
  match ← beforeName.val.token with
  | (.char '%', rest) => do
    let beforeParameter := rest.val.skipSpace
    let (name, left) ← entityName "%" beforeParameter.val
    return (name, beforeName.andMaybe (rest.andMaybe (beforeParameter.andMaybe left)).weaken)
  | _ => do
    let (name, left) ← entityName "" beforeName.val
    return (name, beforeName.andMaybe left)

/-- Reads the definition of an entity after its keyword. -/
def entityDefinition (d : Dialect) (s : Source) : Reading Dialect s := do
  let (name, beforeText) ← definedName s
  match ← beforeText.val.token with
  | (.quote mark, rest) => do
    let (value, afterValue) ← entityValue d mark [] (.all rest.val)
    let (_, left) ← skipDeclaration afterValue.val
    pure (d.define name value, beforeText.andThen (rest.andThen (afterValue.andThen left)))
  | (.char c, rest) => do
    unless c = 'S' || c = 'P' do throw (.unexpectedCharacter c)
    let (_, left) ← skipDeclaration rest.val
    pure (d.define name "", beforeText.andThen (rest.andThen left))
  | (t, _) => throw (.misplaced (String.ofList t.chars))

/-- Whether the character may stand in the keyword of a declaration. -/
def isKeywordChar (c : Char) : Bool :=
  'A' ≤ c && c ≤ 'Z'

def declaration (d : Dialect) (s : Source) : Reading Dialect s := do
  let (keyword, rest) := s.take isKeywordChar
  let keyword := String.ofList keyword
  unless rest.val.startsWithSpace do throw (.invalidName keyword)
  if keyword = "ENTITY" then
    let (d, left) ← entityDefinition d rest.val
    pure (d, rest.andThen left)
  else if keyword = "ELEMENT" || keyword = "ATTLIST" || keyword = "NOTATION" then
    let (_, left) ← skipDeclaration rest.val
    pure (d, rest.andThen left)
  else throw (.invalidName keyword)

/-- What was read inside a document type: its end, a piece that may have defined entities, or a
reference to a parameter entity whose text is to be read next. -/
inductive DoctypePiece where
  | finish
  | define (d : Dialect)
  | expand (text : String)

/-- Reads the next piece of a document type: a declaration, a comment, a quoted text, a reference
to a parameter entity or a single token, which has no meaning here. -/
def doctypePiece (d : Dialect) (s : Source) : Reading DoctypePiece s := do
  let (t, rest) ← s.token
  match t with
  | .tagEnd => pure (.finish, rest)
  | .declarationStart => do
    let (d, left) ← declaration d rest.val
    pure (.define d, rest.andThen left)
  | .char '%' => do
    let (text, left) ← parameterText d rest.val
    pure (.expand text, rest.andThen left)
  | .commentStart => do
    let (_, left) ← rest.val.upTo .commentEnd
    pure (.define d, rest.andThen left)
  | .quote _ => do
    let (_, left) ← rest.val.upTo t
    pure (.define d, rest.andThen left)
  | .dataStart | .dataEnd => throw (.misplaced (String.ofList t.chars))
  | _ => pure (.define d, rest)

end RobotWeb.Markup
