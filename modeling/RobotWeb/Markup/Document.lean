import RobotWeb.Markup.Declaration
import RobotWeb.Markup.Doctype
import RobotWeb.Markup.Scope

/-!
# Reading documents

A document is read piece by piece. A `Draft` holds what has been read so far: the elements that
are still open and the run of characters since the last markup. The text of an entity is put in
front of what is still to be read, so it may hold markup; a `Feed` counts how deep such texts are
nested, and this count bounds the reading.
-/

namespace RobotWeb.Markup

-- ---------------------------------------------------------------------------
-- The characters still to be read
-- ---------------------------------------------------------------------------

/-- How deep the texts of entities may be nested. -/
def nestingLimit : Nat := 10

/-- What is still to be read; `borrowed` of the characters, at the front, come from entities that
are nested `depth` deep. -/
structure Feed where
  source : Source
  borrowed : Nat := 0
  depth : Nat := 0

namespace Feed

/-- The number of characters of the document itself that are left. -/
def own (f : Feed) : Nat :=
  f.source.chars.length - f.borrowed

/-- What is left after reading up to `rest`. Once a character of the document itself was read, no
entity is open any more. -/
def advance (f : Feed) (rest : Source) : Feed :=
  if f.borrowed = 0 then ⟨rest, 0, 0⟩
  else if rest.chars.length < f.own then ⟨rest, 0, 0⟩
  else ⟨rest, rest.chars.length - f.own, f.depth⟩

/-- Puts the text of an entity in front of what is left. -/
def push (f : Feed) (text : List Char) : Except Malformed Feed :=
  if text.isEmpty then .ok f
  else if f.depth < nestingLimit then
    .ok ⟨⟨f.source.place, text ++ f.source.chars⟩, f.borrowed + text.length, f.depth + 1⟩
  else .error .nestedTooDeep

/-- Reading on from the source takes something away: from the text of the document or, inside an
entity, from what was borrowed. -/
theorem advance_shrinks {f : Feed} {rest : Source}
    (h : rest.chars.length < f.source.chars.length) :
    (f.advance rest).own < f.own ∨ (f.advance rest).own = f.own ∧
      (f.advance rest).depth = f.depth ∧ (f.advance rest).borrowed < f.borrowed := by
  unfold advance
  split
  · rename_i hb
    left
    simp only [own, hb]
    omega
  · split
    · rename_i hr
      left
      simpa only [own, Nat.sub_zero] using hr
    · rename_i hr
      right
      simp only [own] at hr ⊢
      exact ⟨by omega, trivial, by omega⟩

/-- What an entity stands for is put in front of the rest only within the limit of nesting, and the
text of the document stays. -/
theorem push_eq_ok {f g : Feed} {text : List Char} (h : f.push text = .ok g) :
    g = f ∨ (g.own = f.own ∧ f.depth < nestingLimit ∧ g.depth = f.depth + 1) := by
  unfold push at h
  split at h
  · left
    simpa [eq_comm] using h
  · split at h
    · rename_i hd
      simp only [Except.ok.injEq] at h
      subst h
      right
      refine ⟨?_, hd, rfl⟩
      simp only [own, List.length_append]
      omega
    · simp at h

end Feed

-- ---------------------------------------------------------------------------
-- The part of the document that has been read
-- ---------------------------------------------------------------------------

/-- An element whose end tag has not been read; its children are listed latest first. -/
structure OpenElement where
  name : QName
  attributes : List (String × String)
  children : List Node
  bound : List String

/-- What has been read of a document. The run holds the characters since the last markup, latest
first, and is dropped unless it `counts`: a run of white space alone does not, unless it begins
with the text of an entity. -/
structure Draft where
  dialect : Dialect
  opened : List OpenElement := []
  run : List Char := []
  counts : Bool := false
  root? : Option Element := none
  typed : Bool := false
  insideDoctype : Bool := false

namespace Draft

def add (d : Draft) (node : Node) : Draft :=
  match d.opened with
  | [] => d
  | e :: outer => { d with opened := { e with children := node :: e.children } :: outer }

def flush (d : Draft) : Draft :=
  let ended := if d.counts && !d.run.isEmpty then d.add (.text (String.ofList d.run.reverse)) else d
  { ended with run := [], counts := false }

def append (d : Draft) (c : Char) : Draft :=
  { d with run := c :: d.run, counts := d.counts || !isSpace c }

/-- Notes a reference to an entity, which makes a run count that begins with it. -/
def refer (d : Draft) : Draft :=
  { d with counts := d.counts || d.run.isEmpty }

/-- Adds a finished element: to the element around it, or as the root if it is the first one. -/
def finish (d : Draft) (e : Element) : Draft :=
  match d.opened with
  | [] => { d with root? := d.root? <|> some e }
  | _ :: _ => d.add (.element e)

/-- Opens the element of a start tag, and closes it again if the tag is self-closing. -/
def start (d : Draft) (tag : StartTag) : Except Malformed Draft := do
  refuseReserved tag.name
  let bound ← declareScopes ((d.opened.head?.map (·.bound)).getD []) tag.attributes
  requireScope bound tag.name.scope
  let attributes ← localAttributes bound [] [] tag.attributes
  let d := d.flush
  if tag.selfClosing then return d.finish ⟨tag.name.localName, attributes, []⟩
  else return { d with opened := ⟨tag.name, attributes, [], bound⟩ :: d.opened }

/-- Closes the innermost open element, which has to have the name of the end tag. -/
def close (d : Draft) (name : QName) : Except Malformed Draft := do
  refuseReserved name
  let d := d.flush
  match d.opened with
  | [] => throw (.misplaced name.localName)
  | e :: outer =>
    unless e.name = name do throw (.mismatchedTag e.name.localName name.localName)
    return { d with opened := outer }.finish ⟨e.name.localName, e.attributes, e.children.reverse⟩

end Draft

-- ---------------------------------------------------------------------------
-- Pieces of a document
-- ---------------------------------------------------------------------------

/-- The document so far, and the text of an entity that is to be read next. -/
structure Progress where
  draft : Draft
  expansion : List Char := []

namespace Draft

/-- Refuses characters that no document of the version may hold. -/
def requireChars (d : Draft) (cs : List Char) : Except Malformed Unit :=
  match cs.find? (!d.dialect.version.isChar ·) with
  | some c => .error (.invalidCharacter c)
  | none => .ok ()

def comment (d : Draft) (s : Source) : Reading Progress s := do
  let (content, rest) ← s.upTo .commentEnd
  d.requireChars content
  pure (⟨d.flush.add (.comment (String.ofList content)), []⟩, rest)

/-- Reads a section of character data after its `<![CDATA[`. It is a text of its own, and white
space that follows other characters of it counts. -/
def characterData (d : Draft) (s : Source) : Reading Progress s := do
  if d.opened.isEmpty then throw (.misplaced "CDATA")
  let (content, rest) ← s.upTo .dataEnd
  d.requireChars content
  let d := d.flush.add (.text (String.ofList content))
  pure (⟨{ d with counts := !content.all isSpace }, []⟩, rest)

/-- Reads a processing instruction after its `<?`. -/
def instruction (d : Draft) (s : Source) : Reading Progress s := do
  let (target, beforeData) := s.take isNameChar
  let target := String.ofList target
  unless startsWith isNameStart target.toList && target.toLower != "xml" do
    throw (.invalidName target)
  let (t, _) ← beforeData.val.token
  unless t.isSpace || t = .instructionEnd do throw (.invalidName target)
  let (data, rest) ← beforeData.val.upTo .instructionEnd
  d.requireChars data
  let data := String.ofList (data.dropWhile isSpace)
  pure (⟨d.flush.add (.instruction target data), []⟩, beforeData.andThen rest)

/-- Begins a document type after its `<!DOCTYPE`. Only one may stand before the root. -/
def beginDoctype (d : Draft) : Except Malformed Draft :=
  if d.typed || d.root?.isSome || !d.opened.isEmpty then .error (.misplaced "DOCTYPE")
  else .ok { d with typed := true, insideDoctype := true }

def inDoctype (d : Draft) (s : Source) : Reading Progress s := do
  match ← doctypePiece d.dialect s with
  | (.finish, rest) => pure (⟨{ d with insideDoctype := false }, []⟩, rest)
  | (.define dialect, rest) => pure (⟨{ d with dialect }, []⟩, rest)
  | (.expand text, rest) => pure (⟨d, text.toList⟩, rest)

/-- Reads a reference in a text after its ampersand. -/
def referenceInText (d : Draft) (s : Source) : Reading Progress s := do
  let (name, rest) ← reference s
  match ← d.dialect.resolve name with
  | .character c => pure (⟨d.append c, []⟩, rest)
  | .entity text => pure (⟨d.refer, text.toList⟩, rest)

/-- Adds a token that stands for itself in a text. Outside the roots, only white space may stand
between markup. -/
def plain (d : Draft) (t : Token) : Except Malformed Draft := do
  if d.opened.isEmpty then
    unless t.isSpace do throw (.misplaced (String.ofList t.chars))
    return d
  else
    match t with
    | .char c =>
      unless d.dialect.version.isLiteral c do throw (.invalidCharacter c)
      return d.append c
    | .dataEnd | .declarationStart => throw (.misplaced (String.ofList t.chars))
    | t => return t.chars.foldl append d

/-- Reads the next piece of a document: markup, a reference or a single token. -/
def piece (d : Draft) (s : Source) : Reading Progress s := do
  if d.insideDoctype then return ← d.inDoctype s
  let (t, inside) ← s.token
  match t with
  | .tagStart => do
    let (tag, rest) ← startTag d.dialect inside.val
    pure (⟨← d.start tag, []⟩, inside.andThen rest)
  | .endTagStart => do
    let (name, rest) ← endTag inside.val
    pure (⟨← d.close name, []⟩, inside.andThen rest)
  | .commentStart => do
    let (p, rest) ← d.comment inside.val
    pure (p, inside.andThen rest)
  | .dataStart => do
    let (p, rest) ← d.characterData inside.val
    pure (p, inside.andThen rest)
  | .instructionStart => do
    let (p, rest) ← d.instruction inside.val
    pure (p, inside.andThen rest)
  | .doctypeStart => do
    pure (⟨← d.beginDoctype, []⟩, inside)
  | .referenceStart => do
    if d.opened.isEmpty then throw (.misplaced "&")
    let (p, rest) ← d.referenceInText inside.val
    pure (p, inside.andThen rest)
  | t => do
    pure (⟨← d.plain t, []⟩, inside)

def readAll (d : Draft) (f : Feed) : Except Malformed Draft :=
  match d.piece f.source with
  | .error e => if f.source.chars.isEmpty then .ok d else .error e
  | .ok (p, rest) =>
    match _hp : (f.advance rest.val).push p.expansion with
    | .error e => .error e
    | .ok left => readAll p.draft left
termination_by (f.own, nestingLimit - f.depth, f.borrowed)
decreasing_by
  simp only [Prod.lex_def]
  have shrinks := Feed.advance_shrinks rest.property
  rcases Feed.push_eq_ok _hp with rfl | ⟨hown, hdepth, hnext⟩ <;> omega

/-- The root of a document that has been read to its end. -/
def root (d : Draft) : Except Malformed Element :=
  if d.insideDoctype || !d.opened.isEmpty then .error .unexpectedEnd
  else
    match d.root? with
    | some root => .ok root
    | none => .error .noRoot

end Draft

/-- Reads the declaration that a document may start with. A document with a byte order mark has
been recognised as UTF-8 and may not declare another encoding. -/
def readDeclaration (marked : Bool) (s : Source) : Except Malformed (Version × Source) := do
  match s.behind? "<?xml".toList (.instruction false) with
  | some ⟨rest, _⟩ =>
    unless rest.startsWithSpace do return (.v10, s)
    let (declaration, rest) ← Declaration.read rest
    if marked && declaration.encoding ≠ .utf8 then throw (.misplaced "encoding")
    return (declaration.version, { rest with chars := ← declaration.encoding.reread rest.chars })
  | none => return (.v10, s)

def parse (content : String) : Except Malformed Element := do
  let (marked, cs) := match content.toList with
    | '\uFEFF' :: rest => (true, rest)
    | cs => (false, cs)
  let (version, s) ← readDeclaration marked ⟨.content, cs⟩
  let d ← ({ dialect := { version } } : Draft).readAll ⟨s, 0, 0⟩
  d.root

end RobotWeb.Markup
