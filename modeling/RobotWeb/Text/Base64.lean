/-!
# Base64

The standard alphabet with padding: three bytes become four characters of six bits each, and a
rest of one or two bytes is completed with zero bits and `=` signs.
-/

namespace RobotWeb.Text.Base64

def digit (n : Nat) : Char :=
  if n < 26 then Char.ofNat ('A'.toNat + n)
  else if n < 52 then Char.ofNat ('a'.toNat + (n - 26))
  else if n < 62 then Char.ofNat ('0'.toNat + (n - 52))
  else if n = 62 then '+'
  else '/'

def digitValue? (c : Char) : Option Nat :=
  if 'A' ≤ c ∧ c ≤ 'Z' then some (c.toNat - 'A'.toNat)
  else if 'a' ≤ c ∧ c ≤ 'z' then some (c.toNat - 'a'.toNat + 26)
  else if '0' ≤ c ∧ c ≤ '9' then some (c.toNat - '0'.toNat + 52)
  else if c = '+' then some 62
  else if c = '/' then some 63
  else none

def encode : List UInt8 → List Char
  | [] => []
  | [a] => [digit (a.toNat / 4), digit (a.toNat % 4 * 16), '=', '=']
  | [a, b] =>
    [digit (a.toNat / 4), digit (a.toNat % 4 * 16 + b.toNat / 16), digit (b.toNat % 16 * 4), '=']
  | a :: b :: c :: rest =>
    digit (a.toNat / 4) :: digit (a.toNat % 4 * 16 + b.toNat / 16) ::
      digit (b.toNat % 16 * 4 + c.toNat / 64) :: digit (c.toNat % 64) :: encode rest

/-- The bytes of a base64 text; refuses characters outside the alphabet, a wrong length and
padding anywhere but at the end. -/
def decode? : List Char → Option (List UInt8)
  | [] => some []
  | [p, q, '=', '='] => do
    let p ← digitValue? p
    let q ← digitValue? q
    some [UInt8.ofNat (p * 4 + q / 16)]
  | [p, q, r, '='] => do
    let p ← digitValue? p
    let q ← digitValue? q
    let r ← digitValue? r
    some [UInt8.ofNat (p * 4 + q / 16), UInt8.ofNat (q % 16 * 16 + r / 4)]
  | p :: q :: r :: s :: rest => do
    let p ← digitValue? p
    let q ← digitValue? q
    let r ← digitValue? r
    let s ← digitValue? s
    let bytes ← decode? rest
    some (UInt8.ofNat (p * 4 + q / 16) :: UInt8.ofNat (q % 16 * 16 + r / 4) ::
      UInt8.ofNat (r % 4 * 64 + s) :: bytes)
  | _ => none

example : encode [0x66] = "Zg==".toList ∧ encode [0x66, 0x6F] = "Zm8=".toList ∧
    encode [0x66, 0x6F, 0x6F] = "Zm9v".toList := by decide +kernel
example : decode? "Zm9vYg==".toList = some [0x66, 0x6F, 0x6F, 0x62] := by decide +kernel

end RobotWeb.Text.Base64
