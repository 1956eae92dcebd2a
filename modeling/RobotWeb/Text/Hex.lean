import RobotWeb.Text.Numeral

/-!
# Bytes in hexadecimal

Each byte is two hexadecimal digits. They are written in lower case and read in either case.
-/

namespace RobotWeb.Text.Hex

def encodeByte (b : UInt8) : List Char :=
  [hexDigit (b.toNat / 16), hexDigit (b.toNat % 16)].map Char.toLower

def encode (bytes : List UInt8) : List Char :=
  bytes.flatMap encodeByte

def decode? : List Char → Option (List UInt8)
  | [] => some []
  | [_] => none
  | a :: b :: rest => do
    let n ← numeral? 16 [a, b]
    return UInt8.ofNat n :: (← decode? rest)

example : decode? "00fF7e".toList = some [0x00, 0xFF, 0x7E] := by decide +kernel
example : encode [0x00, 0xFF, 0x7E] = "00ff7e".toList := by decide +kernel

end RobotWeb.Text.Hex
