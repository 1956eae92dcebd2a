import RobotWeb.Markup.Tag
import RobotWeb.Text.Utf8

/-!
# The document declaration

The optional first line of a document, which names the version and the encoding. A document
without a byte order mark is read in the declared encoding from the declaration on, so that a
Latin-1 declaration turns every byte of the text into a character of its own.
-/

namespace RobotWeb.Markup

/-- The encodings of eight bits that a document may declare. -/
inductive Encoding where
  | utf8
  | latin1
  | ascii
  deriving DecidableEq, Repr

/-- Whether the shorter of the two texts is the beginning of the longer, in any case of the
letters. -/
def agreesWith (label value : String) : Bool :=
  (label.toList.zip value.toList).all fun (l, v) => l == v.toLower

/-- The encoding that a declared name stands for. Encodings of sixteen bits contradict the bytes
that the name itself was read from. -/
def Encoding.named? (name : String) : Option Encoding :=
  if ["utf-8", "utf8"].any (agreesWith · name) then some .utf8
  else if ["iso-8859-1", "latin1"].any (agreesWith · name) then some .latin1
  else if ["utf-16", "utf16"].any (agreesWith · name) then none
  else if ["ascii", "us-ascii"].any (agreesWith · name) then some .ascii
  else none

/-- Reads the bytes of the characters again in another encoding. -/
def Encoding.reread (e : Encoding) (cs : List Char) : Except Malformed (List Char) :=
  match e with
  | .utf8 => .ok cs
  | .latin1 => .ok ((Text.Utf8.encode cs).map fun b => Char.ofNat b.toNat)
  | .ascii =>
    match cs.find? fun c => 0x80 ≤ c.toNat with
    | some c => .error (.invalidCharacter c)
    | none => .ok cs

/-- What a declaration says. -/
structure Declaration where
  version : Version
  encoding : Encoding

/-- Reads `keyword = "value"`. A namespace part may stand behind the first letter of the keyword
and does not count. -/
def pseudoAttribute (keyword : String) (s : Source) : Except Malformed (String × Source) := do
  let (initial, ⟨rest, _⟩) ← s.token
  unless initial.chars = keyword.toList.take 1 do throw (.misplaced keyword)
  let (name, ⟨rest, _⟩) ← qualifiedName [.equals] rest
  unless name.localName.toList = keyword.toList.drop 1 do throw (.misplaced keyword)
  let (value, ⟨rest, _⟩) ← assignedValue {} rest
  return (value, rest)

/-- Whether the next token ends the declaration. -/
def atEnd (s : Source) : Bool :=
  match s.token with
  | .ok (t, _) => t == .instructionEnd
  | .error _ => false

/-- Reads the space between two parts of a declaration, which may be missing before its end. -/
def separation (s : Source) : Except Malformed Source :=
  if atEnd s || s.startsWithSpace then .ok s.skipSpace.val else .error (.misplaced "declaration")

/-- Reads the standalone part, if there is one, and the end of a declaration. -/
def standaloneAndEnd (s : Source) : Except Malformed Source := do
  let s ← if atEnd s then pure s else do
    let (value, rest) ← pseudoAttribute "standalone" s
    unless value = "yes" || value = "no" do throw (.invalidDeclaration value)
    pure rest.skipSpace.val
  match ← s.token with
  | (.instructionEnd, ⟨rest, _⟩) => return rest
  | (t, _) => throw (.misplaced (String.ofList t.chars))

/-- Reads a declaration after its `<?xml` and white space. -/
def Declaration.read (s : Source) : Except Malformed (Declaration × Source) := do
  let (value, rest) ← pseudoAttribute "version" s.skipSpace.val
  let version ← match value with
    | "1.0" => pure Version.v10
    | "1.1" => pure Version.v11
    | _ => throw (.invalidDeclaration value)
  let rest ← separation rest
  if rest.chars.head? = some 'e' then
    let (name, rest) ← pseudoAttribute "encoding" rest
    match Encoding.named? name with
    | none => throw (.invalidDeclaration name)
    | some encoding => return (⟨version, encoding⟩, ← standaloneAndEnd (← separation rest))
  else return (⟨version, .utf8⟩, ← standaloneAndEnd rest)

end RobotWeb.Markup
