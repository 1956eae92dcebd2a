import RobotWeb.Text.Numeral
import RobotWeb.Text.Utf8

/-!
# Percent-encoding

A byte is written as `%` and two hexadecimal digits in upper case. Encoding escapes the ASCII
characters of a given set and every other character byte by byte; decoding leaves a `%` that no
two digits follow as it is.
-/

namespace RobotWeb.Text.Percent

def escape (b : UInt8) : List Char :=
  ['%', hexDigit (b.toNat / 16), hexDigit (b.toNat % 16)]

/-- Escapes the ASCII characters in `reserved` and all characters beyond ASCII. -/
def encode (reserved : Char → Bool) (cs : List Char) : List Char :=
  cs.flatMap fun c =>
    if c.toNat < 0x80 && !reserved c then [c]
    else (String.utf8EncodeChar c).flatMap escape

/-- The byte of the escape that the text starts with. -/
def escaped? : List Char → Option UInt8
  | '%' :: h :: l :: _ => do
    let high ← hexValue? h
    let low ← hexValue? l
    some (UInt8.ofNat (16 * high + low))
  | _ => none

/-- The bytes of a text after dropping `skip` characters, with every escape replaced by the byte
that it stands for. -/
def decodeFrom (skip : Nat) : List Char → List UInt8
  | [] => []
  | c :: cs =>
    match skip with
    | skip + 1 => decodeFrom skip cs
    | 0 =>
      match escaped? (c :: cs) with
      | some b => b :: decodeFrom 2 cs
      | none => String.utf8EncodeChar c ++ decodeFrom 0 cs

/-- The bytes of a text, with every escape replaced by the byte that it stands for. -/
def decode (cs : List Char) : List UInt8 :=
  decodeFrom 0 cs

example : Utf8.decode? (decode "a%C3%A9%zz%4".toList) = some "aé%zz%4".toList := by
  decide +kernel

end RobotWeb.Text.Percent
