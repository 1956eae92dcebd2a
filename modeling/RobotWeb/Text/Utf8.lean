/-!
# UTF-8

Encoding of texts as bytes and decoding of bytes as texts. Decoding is strict (`decode?`) or
lossy (`decodeLossy`): the lossy form writes U+FFFD for every maximal part of an ill-formed
sequence that could still have been the beginning of a character.
-/

namespace RobotWeb.Text.Utf8

def encode (cs : List Char) : List UInt8 :=
  cs.flatMap String.utf8EncodeChar

/-- The number of continuation bytes after the first byte `b` of a character, and the range that
the first of them is restricted to. The restrictions exclude overlong forms, surrogates and
values above U+10FFFF. -/
def form? (b : UInt8) : Option (Nat × UInt8 × UInt8) :=
  if b ≤ 0x7F then some (0, 0x80, 0xBF)
  else if 0xC2 ≤ b && b ≤ 0xDF then some (1, 0x80, 0xBF)
  else if b == 0xE0 then some (2, 0xA0, 0xBF)
  else if b == 0xED then some (2, 0x80, 0x9F)
  else if 0xE1 ≤ b && b ≤ 0xEF then some (2, 0x80, 0xBF)
  else if b == 0xF0 then some (3, 0x90, 0xBF)
  else if 0xF1 ≤ b && b ≤ 0xF3 then some (3, 0x80, 0xBF)
  else if b == 0xF4 then some (3, 0x80, 0x8F)
  else none

/-- The payload bits of a first byte that is followed by `count` continuation bytes. -/
def leadBits (count : Nat) (b : UInt8) : Nat :=
  match count with
  | 0 => b.toNat
  | 1 => b.toNat % 0x20
  | 2 => b.toNat % 0x10
  | _ => b.toNat % 0x08

/-- Reads `count` more continuation bytes of a character whose bits so far are `bits`. The
number of bytes that were acceptable is `taken` more than at the start. -/
def continuations (count : Nat) (low high : UInt8) (bits taken : Nat) :
    List UInt8 → Option Char × Nat :=
  match count with
  | 0 => fun _ => (some (Char.ofNat bits), taken)
  | count + 1 => fun
    | [] => (none, taken)
    | b :: bs =>
      if low ≤ b && b ≤ high then
        continuations count 0x80 0xBF (bits * 64 + b.toNat % 64) (taken + 1) bs
      else (none, taken)

/-- The character at the start of the bytes, if they begin with one, and the number of bytes of
it or of the maximal ill-formed part. -/
def first : List UInt8 → Option Char × Nat
  | [] => (none, 0)
  | b :: bs =>
    match form? b with
    | none => (none, 1)
    | some (count, low, high) => continuations count low high (leadBits count b) 1 bs

/-- Decodes with the ill-formed parts handed to `replace`; `skip` bytes at the start belong to
what was read before. -/
def decodeWith (replace : Option Char) (skip : Nat) : List UInt8 → Option (List Char)
  | [] => some []
  | b :: bs =>
    match skip with
    | skip + 1 => decodeWith replace skip bs
    | 0 =>
      let (char?, length) := first (b :: bs)
      match char?.or replace with
      | none => none
      | some c => (decodeWith replace (length - 1) bs).map (c :: ·)

/-- The characters of the bytes, if they are well-formed UTF-8. -/
def decode? (bytes : List UInt8) : Option (List Char) :=
  decodeWith none 0 bytes

/-- The characters of the bytes, with U+FFFD for every ill-formed part. -/
def decodeLossy (bytes : List UInt8) : List Char :=
  (decodeWith (some '\uFFFD') 0 bytes).getD []

/-- The characters that the bytes begin with, up to the first ill-formed part, and the bytes from
there on; `skip` bytes at the start belong to what was read before. -/
def decodePrefixFrom (skip : Nat) : List UInt8 → List Char × List UInt8
  | [] => ([], [])
  | b :: bs =>
    match skip with
    | skip + 1 => decodePrefixFrom skip bs
    | 0 =>
      match first (b :: bs) with
      | (some c, length) =>
        let (more, rest) := decodePrefixFrom (length - 1) bs
        (c :: more, rest)
      | (none, _) => ([], b :: bs)

/-- The characters that the bytes begin with, up to the first ill-formed part, and the bytes from
there on. -/
def decodePrefix (bytes : List UInt8) : List Char × List UInt8 :=
  decodePrefixFrom 0 bytes

/-- Whether the bytes are the beginning of a character that further bytes may complete. -/
def isUnfinished (bytes : List UInt8) : Bool :=
  match bytes with
  | [] => false
  | b :: _ => (form? b).isSome && first bytes == (none, bytes.length)

example : decode? [0x61, 0xC3, 0xA9, 0xE2, 0x82, 0xAC, 0xF0, 0x9F, 0xA4, 0x96]
    = some ['a', 'é', '€', '🤖'] := by decide +kernel
example : decode? [0xC0, 0x80] = none ∧ decode? [0xED, 0xA0, 0x80] = none ∧
    decode? [0xF4, 0x90, 0x80, 0x80] = none ∧ decode? [0xE2, 0x82] = none := by decide +kernel
example : decodeLossy [0x61, 0xE2, 0x82, 0x62, 0xFF, 0xF0, 0x9F, 0xA4]
    = ['a', '\uFFFD', 'b', '\uFFFD', '\uFFFD'] := by decide +kernel

example : decodePrefix [0x61, 0xE2, 0x82] = (['a'], [0xE2, 0x82]) ∧
    isUnfinished [0xE2, 0x82] = true ∧ isUnfinished [0xE2, 0x28] = false ∧
    isUnfinished [0xFF] = false := by decide +kernel

end RobotWeb.Text.Utf8
