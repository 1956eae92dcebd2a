import RobotWeb.Text.Percent
import RobotWeb.Text.Split

/-!
# Form bodies

The encoding `application/x-www-form-urlencoded`: pairs of a name and a value, joined by `&`,
with `=` between the two. Letters, digits and `*`, `-`, `.`, `_` stand for themselves, a space is
written `+`, and every other byte of the UTF-8 form is percent-encoded.
-/

namespace RobotWeb.Text.Form

def isPlain (b : UInt8) : Bool :=
  (0x30 ≤ b && b ≤ 0x39) || (0x41 ≤ b && b ≤ 0x5A) || (0x61 ≤ b && b ≤ 0x7A) ||
  b == 0x2A || b == 0x2D || b == 0x2E || b == 0x5F

def encodeByte (b : UInt8) : List Char :=
  if isPlain b then [Char.ofNat b.toNat]
  else if b == 0x20 then ['+']
  else Percent.escape b

def encodePart (s : String) : List Char :=
  (Utf8.encode s.toList).flatMap encodeByte

def encodePair (pair : String × String) : List Char :=
  encodePart pair.1 ++ '=' :: encodePart pair.2

def encodeChars : List (String × String) → List Char
  | [] => []
  | [pair] => encodePair pair
  | pair :: rest => encodePair pair ++ '&' :: encodeChars rest

def encode (pairs : List (String × String)) : String :=
  String.ofList (encodeChars pairs)

/-- The text of a written name or value: `+` stands for a space and escapes for their bytes. -/
def decodePart (cs : List Char) : String :=
  String.ofList (Utf8.decodeLossy (Percent.decode (cs.map fun c => if c = '+' then ' ' else c)))

/-- The pair of one piece of a form body, cut at its first `=`. -/
def decodePair (cs : List Char) : String × String :=
  match splitFirst? '=' cs with
  | some (name, value) => (decodePart name, decodePart value)
  | none => (decodePart cs, "")

/-- The pairs of a form body; empty pieces between `&` signs are skipped. -/
def decode (body : String) : List (String × String) :=
  ((splitOn '&' body.toList).filter (!·.isEmpty)).map decodePair

end RobotWeb.Text.Form
