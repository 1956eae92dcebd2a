import RobotWeb.Markup.Malformed
import RobotWeb.Markup.Name
import RobotWeb.Text.Split

/-!
# Tokens

Markup is a sequence of tokens: marks with a meaning, and characters that stand for themselves.
Which marks count depends on the place alone, not on what the marks are used for. So a comment
inside an attribute value hides the quotes in it, although the value keeps it as it is written.
What follows a token comes with a proof that it is shorter, so that every loop over tokens ends.
-/

namespace RobotWeb.Markup

-- ---------------------------------------------------------------------------
-- Marks and places
-- ---------------------------------------------------------------------------

/-- A mark of the markup, or a character that stands for itself. -/
inductive Token where
  | char (c : Char)
  | tagStart
  | endTagStart
  | tagEnd
  | emptyTagEnd
  | equals
  | quote (c : Char)
  | referenceStart
  | referenceEnd
  | commentStart
  | commentEnd
  | dataStart
  | dataEnd
  | instructionStart
  | instructionEnd
  | doctypeStart
  | declarationStart
  deriving DecidableEq, Repr

def Token.chars : Token → List Char
  | .char c => [c]
  | .tagStart => ['<']
  | .endTagStart => ['<', '/']
  | .tagEnd => ['>']
  | .emptyTagEnd => ['/', '>']
  | .equals => ['=']
  | .quote c => [c]
  | .referenceStart => ['&']
  | .referenceEnd => [';']
  | .commentStart => "<!--".toList
  | .commentEnd => "-->".toList
  | .dataStart => "<![CDATA[".toList
  | .dataEnd => "]]>".toList
  | .instructionStart => ['<', '?']
  | .instructionEnd => ['?', '>']
  | .doctypeStart => "<!DOCTYPE".toList
  | .declarationStart => ['<', '!']

/-- Whether the token is a character of white space. -/
def Token.isSpace : Token → Bool
  | .char c => Markup.isSpace c
  | _ => false

/-- Where the reader stands, as far as the tokens depend on it: in the tags and texts of the
document, in a document type, in a declaration of it, in a quoted text of such a declaration, or
in a comment, a section of character data or an instruction, `typed` in a document type. -/
inductive Place where
  | content
  | doctype
  | declaration
  | quoted (mark : Char)
  | comment (typed : Bool)
  | data (typed : Bool)
  | instruction (typed : Bool)
  deriving DecidableEq, Repr

/-- The place around a comment, a section or an instruction. -/
def Place.around (typed : Bool) : Place :=
  if typed then .doctype else .content

/-- A token that is more than a character, and the place behind it. It is one only where what
follows `fits`. -/
structure Mark where
  token : Token
  next : Place
  fits : List Char → Bool

def Mark.always (token : Token) (next : Place) : Mark :=
  ⟨token, next, fun _ => true⟩

/-- Whether the text starts with a character that satisfies `p`. -/
def startsWith (p : Char → Bool) (cs : List Char) : Bool :=
  (cs.head?.map p).getD false

/-- The marks that begin something else, in the content (`typed` is false) or in a document
type. -/
def openingMarks (typed : Bool) : List Mark :=
  [.always .commentStart (.comment typed),
   .always .dataStart (.data typed),
   .always .doctypeStart .doctype,
   .always .instructionStart (.instruction typed),
   .always .endTagStart (.around typed),
   ⟨.tagStart, .around typed, startsWith fun c => isSpace c || isNameChar c⟩]

/-- The marks of references and quotes, which leave the place as it is. -/
def innerMarks (place : Place) : List Mark :=
  [.always .referenceStart place,
   .always .referenceEnd place,
   .always (.quote '"') place,
   .always (.quote '\'') place]

def contentMarks : List Mark :=
  openingMarks false ++ innerMarks .content ++
    [.always .tagEnd .content,
     .always .emptyTagEnd .content,
     .always .equals .content,
     .always .dataEnd .content]

/-- The marks in a document type. Its first `>` ends it, whatever it belongs to. -/
def doctypeMarks : List Mark :=
  openingMarks true ++ innerMarks .doctype ++
    [⟨.declarationStart, .declaration, startsWith ['E', 'A', 'N'].contains⟩,
     .always .tagEnd .content]

/-- The marks in a declaration of a document type. -/
def declarationMarks : List Mark :=
  [.always .tagEnd .doctype,
   .always (.quote '"') (.quoted '"'),
   .always (.quote '\'') (.quoted '\''),
   .always .referenceStart .declaration,
   .always .referenceEnd .declaration]

/-- The marks in an instruction; those of tags and attributes serve the document declaration. -/
def instructionMarks (typed : Bool) : List Mark :=
  .always .instructionEnd (.around typed) ::
    .always .tagStart (.instruction typed) ::
    .always .tagEnd (.instruction typed) ::
    .always .equals (.instruction typed) ::
    innerMarks (.instruction typed)

def Place.marks : Place → List Mark
  | .content => contentMarks
  | .doctype => doctypeMarks
  | .declaration => declarationMarks
  | .quoted mark => [.always (.quote mark) .declaration]
  | .comment typed => [.always .commentEnd (.around typed)]
  | .data typed => [.always .dataEnd (.around typed)]
  | .instruction typed => instructionMarks typed

/-- Whether a character may not stand for itself at the place, in front of `cs`: an opening
bracket outside quotes, and the first of two hyphens in a comment. -/
def Place.refuses (place : Place) (c : Char) (cs : List Char) : Bool :=
  match place with
  | .content | .doctype | .declaration => c == '<'
  | .comment _ => c == '-' && startsWith (· == '-') cs
  | .quoted _ | .data _ | .instruction _ => false

-- ---------------------------------------------------------------------------
-- What is still to be read
-- ---------------------------------------------------------------------------

/-- The characters still to be read, and the place of the first one. -/
structure Source where
  place : Place
  chars : List Char

/-- What is left after reading something from `s`. -/
abbrev Shorter (s : Source) := { rest : Source // rest.chars.length < s.chars.length }

/-- What is left after reading something or nothing from `s`. -/
abbrev Remainder (s : Source) := { rest : Source // rest.chars.length ≤ s.chars.length }

/-- What a reader found at the start of `s`, and what is left. -/
abbrev Reading (α : Type) (s : Source) := Except Malformed (α × Shorter s)

namespace Shorter

def tail (place next : Place) (c : Char) (cs : List Char) : Shorter ⟨place, c :: cs⟩ :=
  ⟨⟨next, cs⟩, Nat.lt_succ_self _⟩

/-- What is left after reading something, and then something more. -/
def andThen {s : Source} (rest : Shorter s) (later : Shorter rest.val) : Shorter s :=
  ⟨later.val, Nat.lt_trans later.property rest.property⟩

/-- What is left after reading something, and then something or nothing. -/
def andMaybe {s : Source} (rest : Shorter s) (later : Remainder rest.val) : Shorter s :=
  ⟨later.val, Nat.lt_of_le_of_lt later.property rest.property⟩

def weaken {s : Source} (rest : Shorter s) : Remainder s :=
  ⟨rest.val, Nat.le_of_lt rest.property⟩

end Shorter

namespace Remainder

def all (s : Source) : Remainder s :=
  ⟨s, Nat.le_refl _⟩

/-- What is left after reading something or nothing, and then something. -/
def andThen {s : Source} (rest : Remainder s) (later : Shorter rest.val) : Shorter s :=
  ⟨later.val, Nat.lt_of_lt_of_le later.property rest.property⟩

/-- What is left after reading something or nothing, and then again. -/
def andMaybe {s : Source} (rest : Remainder s) (later : Remainder rest.val) : Remainder s :=
  ⟨later.val, Nat.le_trans later.property rest.property⟩

end Remainder

namespace Source

/-- What follows `marker`, which is not empty, to be read at the place `next`. -/
def behind? (marker : List Char) (next : Place) (s : Source) : Option (Shorter s) :=
  match h : Text.dropMarker? marker s.chars with
  | none => none
  | some rest =>
    if hm : marker = [] then none
    else some ⟨⟨next, rest⟩, by
      have hs := Text.dropMarker?_eq_some.mp h
      have hl : 0 < marker.length := List.length_pos_iff.mpr hm
      rw [hs, List.length_append]
      exact Nat.lt_add_of_pos_left hl⟩

def mark? (s : Source) (m : Mark) : Option (Token × Shorter s) :=
  match s.behind? m.token.chars m.next with
  | some rest => if m.fits rest.val.chars then some (m.token, rest) else none
  | none => none

/-- Reads the next token: a mark that counts at the place, or else a character. -/
def token (s : Source) : Reading Token s :=
  match s.place.marks.findSome? s.mark? with
  | some found => .ok found
  | none =>
    match s with
    | ⟨_, []⟩ => .error .unexpectedEnd
    | ⟨place, c :: cs⟩ =>
      if place.refuses c cs then .error (.unexpectedCharacter c)
      else .ok (.char c, .tail place place c cs)

end Source

end RobotWeb.Markup
