import RobotWeb.Markup.Reference

/-!
# Tags

Start tags with their attributes, and end tags. References inside attribute values are replaced
at once; the text of an entity is taken as it is and cannot end the value. Other marks stay in the
value as they are written, except for those that begin a start tag or an instruction.
-/

namespace RobotWeb.Markup

/-- The characters of a start tag: its name, its attributes in order, and whether it ends the
element as well. -/
structure StartTag where
  name : QName
  attributes : List (QName × String)
  selfClosing : Bool

/-- Reads a qualified name, which white space or one of the tokens in `stops` ends. -/
def qualifiedName (stops : List Token) (s : Source) : Except Malformed (QName × Remainder s) := do
  let (name, rest) := s.take isNameChar
  let (stop, _) ← rest.val.token
  unless stop.isSpace || stops.contains stop do throw (.misplaced (String.ofList stop.chars))
  match QName.ofChars? name with
  | some qname => return (qname, rest)
  | none => throw (.invalidName (String.ofList name))

/-- The characters that a reference in an attribute value stands for. -/
def Replacement.chars : Replacement → List Char
  | .character c => [c]
  | .entity text => text.toList

/-- Reads the rest of an attribute value, up to the closing quote; `value` holds what has been
read, latest first. -/
def attributeValue (d : Dialect) (mark : Char) {whole : Source} (value : List Char)
    (s : Remainder whole) : Reading String whole :=
  match s.val.token with
  | .error e => .error e
  | .ok (t, rest) =>
    if t = .quote mark then .ok (String.ofList value.reverse, s.andThen rest)
    else
      match t with
      | .tagStart | .instructionStart => .error (.misplaced (String.ofList t.chars))
      | .referenceStart =>
        match reference rest.val with
        | .error e => .error e
        | .ok (name, after) =>
          match d.resolve name with
          | .error e => .error e
          | .ok replacement =>
            attributeValue d mark (replacement.chars.reverse ++ value)
              (s.andThen (rest.andThen after)).weaken
      | .char c =>
        if d.version.isLiteral c then attributeValue d mark (c :: value) (s.andThen rest).weaken
        else .error (.invalidCharacter c)
      | t => attributeValue d mark (t.chars.reverse ++ value) (s.andThen rest).weaken
termination_by s.val.chars.length
decreasing_by
  · exact (rest.andThen after).property
  · exact rest.property
  · exact rest.property

/-- Reads a quoted value after the equals sign; white space may stand on either side of it. -/
def assignedValue (d : Dialect) (s : Source) : Reading String s :=
  let beforeSign := s.skipSpace
  match beforeSign.val.token with
  | .ok (.equals, afterSign) =>
    let beforeQuote := afterSign.val.skipSpace
    match beforeQuote.val.token with
    | .ok (.quote mark, afterQuote) => do
      let (value, rest) ← attributeValue d mark [] (.all afterQuote.val)
      pure (value, (beforeSign.andThen (afterSign.andMaybe beforeQuote)).andThen
        (afterQuote.andThen rest))
    | .ok (t, _) => .error (.misplaced (String.ofList t.chars))
    | .error e => .error e
  | .ok (t, _) => .error (.misplaced (String.ofList t.chars))
  | .error e => .error e

/-- Reads an attribute: a name and a quoted value. -/
def namedValue (d : Dialect) (s : Source) : Reading (QName × String) s := do
  let (name, rest) ← qualifiedName [.equals] s
  let (value, left) ← assignedValue d rest.val
  pure ((name, value), rest.andThen left)

/-- Reads the attributes and the end of a start tag. White space has to stand before every
attribute; `separated` tells whether it does before the next one, and `found` holds those that
have been read, latest first. -/
def attributesAndEnd (d : Dialect) (separated : Bool) {whole : Source}
    (found : List (QName × String)) (s : Remainder whole) :
    Reading (List (QName × String) × Bool) whole :=
  match s.val.token with
  | .error e => .error e
  | .ok (t, rest) =>
    match t with
    | .tagEnd => .ok ((found.reverse, false), s.andThen rest)
    | .emptyTagEnd => .ok ((found.reverse, true), s.andThen rest)
    | t =>
      if t.isSpace then attributesAndEnd d true found (s.andThen rest).weaken
      else if separated then
        match namedValue d s.val with
        | .error e => .error e
        | .ok (a, left) => attributesAndEnd d false (a :: found) (s.andThen left).weaken
      else .error (.misplaced (String.ofList t.chars))
termination_by s.val.chars.length
decreasing_by
  · exact rest.property
  · exact left.property

def startTag (d : Dialect) (s : Source) : Reading StartTag s := do
  let (name, rest) ← qualifiedName [.tagEnd, .emptyTagEnd] s
  let ((attributes, selfClosing), left) ← attributesAndEnd d false [] (.all rest.val)
  pure (⟨name, attributes, selfClosing⟩, rest.andThen left)

def endTag (s : Source) : Reading QName s := do
  let (name, rest) ← qualifiedName [.tagEnd] s
  let beforeEnd := rest.val.skipSpace
  match ← beforeEnd.val.token with
  | (.tagEnd, left) => pure (name, rest.andThen (beforeEnd.andThen left))
  | (t, _) => throw (.misplaced (String.ofList t.chars))

end RobotWeb.Markup
