/-!
# Characters and names of markup

The character classes of XML 1.0 and 1.1 and qualified names. The first character of a qualified
name starts a name; after the colon any name character may follow.
-/

namespace RobotWeb.Markup

/-- The versions of the markup language, which differ in the control characters they admit. -/
inductive Version where
  | v10
  | v11
  deriving DecidableEq, Repr

/-- The white space of markup: space, tab, carriage return and line feed. -/
def isSpace (c : Char) : Bool :=
  c == ' ' || c == '\t' || c == '\r' || c == '\n'

/-- Whether a character reference may stand for the character. -/
def Version.isChar (v : Version) (c : Char) : Bool :=
  let planes := (0x20 ≤ c.toNat && c.toNat ≤ 0xD7FF) || (0xE000 ≤ c.toNat && c.toNat ≤ 0xFFFD) ||
    0x10000 ≤ c.toNat
  match v with
  | .v10 => planes || c == '\t' || c == '\n' || c == '\r'
  | .v11 => planes || (1 ≤ c.toNat && c.toNat < 0x20)

/-- Whether the character may be written as itself: version 1.1 admits most control characters
only by reference. -/
def Version.isLiteral (v : Version) (c : Char) : Bool :=
  match v with
  | .v10 => v.isChar c
  | .v11 => v.isChar c &&
    !((1 ≤ c.toNat && c.toNat ≤ 0x08) || c.toNat == 0x0B || c.toNat == 0x0C ||
      (0x0E ≤ c.toNat && c.toNat ≤ 0x1F) || (0x7F ≤ c.toNat && c.toNat ≤ 0x84) ||
      (0x86 ≤ c.toNat && c.toNat ≤ 0x9F))

/-- The inclusive ranges of the characters that start a name. -/
def nameStartRanges : List (Nat × Nat) :=
  [(0x3A, 0x3A), (0x41, 0x5A), (0x5F, 0x5F), (0x61, 0x7A), (0xC0, 0xD6), (0xD8, 0xF6),
   (0xF8, 0x2FF), (0x370, 0x37D), (0x37F, 0x1FFF), (0x200C, 0x200D), (0x2070, 0x218F),
   (0x2C00, 0x2FEF), (0x3001, 0xD7FF), (0xF900, 0xFDCF), (0xFDF0, 0xFFFD), (0x10000, 0xEFFFF)]

/-- The inclusive ranges of the further characters that continue a name. -/
def nameMoreRanges : List (Nat × Nat) :=
  [(0x2D, 0x2E), (0x30, 0x39), (0xB7, 0xB7), (0x300, 0x36F), (0x203F, 0x2040)]

def isNameStart (c : Char) : Bool :=
  nameStartRanges.any fun (low, high) => low ≤ c.toNat && c.toNat ≤ high

def isNameChar (c : Char) : Bool :=
  isNameStart c || nameMoreRanges.any fun (low, high) => low ≤ c.toNat && c.toNat ≤ high

/-- A name with an optional namespace part in front of a colon. -/
structure QName where
  scope : Option String
  localName : String
  deriving DecidableEq, Repr

/-- The qualified name written by the characters: one part, or two non-empty parts around the
only colon, with a first character that starts a name. -/
def QName.ofChars? (cs : List Char) : Option QName :=
  let (before, rest) := (cs.takeWhile (· != ':'), cs.dropWhile (· != ':'))
  let startsName := (before.head?.map isNameStart).getD false
  match rest with
  | [] => if startsName then some ⟨none, String.ofList before⟩ else none
  | _ :: after =>
    if startsName && !after.isEmpty && !after.contains ':' then
      some ⟨some (String.ofList before), String.ofList after⟩
    else none

end RobotWeb.Markup
