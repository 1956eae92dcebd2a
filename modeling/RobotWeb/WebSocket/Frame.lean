import RobotWeb.Stream.Frame

/-!
# Frames on the wire

The bytes of frames: two bytes with the flags, the opcode and a length of seven bits, a longer
length where it is needed, a mask, and the payload.
-/

namespace RobotWeb.WebSocket

open RobotWeb.Stream (Opcode)

/-- A frame to be sent. The opcode is its four bits, so that frames of no known kind can be
written too. -/
structure Frame where
  final : Bool := true
  opcode : UInt8
  payload : List UInt8 := []
  deriving DecidableEq, Repr

def Frame.ofOpcode (opcode : Opcode) (payload : List UInt8) : Frame :=
  ⟨true, opcode.bits.toUInt8, payload⟩

/-- The `count` bytes of a number, the most significant one first. -/
def bigEndian (count n : Nat) : List UInt8 :=
  match count with
  | 0 => []
  | count + 1 => UInt8.ofNat (n >>> (8 * count)) :: bigEndian count n

/-- The number that bytes stand for, the most significant one first. -/
def ofBigEndian (bytes : List UInt8) : Nat :=
  bytes.foldl (fun n b => 256 * n + b.toNat) 0

/-- The length of a payload as it is written: seven bits, and two or eight bytes if these are not
enough. -/
def lengthBytes (length : Nat) : List UInt8 :=
  if length < 126 then [UInt8.ofNat length]
  else if length < UInt16.size then 126 :: bigEndian 2 length
  else 127 :: bigEndian 8 length

def Frame.encode (f : Frame) : List UInt8 :=
  ((if f.final then 0x80 else 0) ||| (f.opcode &&& 0x0F)) ::
    lengthBytes f.payload.length ++ f.payload

/-- What comes before the payload of a frame. `reserved` tells whether a flag without a meaning is
set. -/
structure Header where
  final : Bool
  reserved : Bool
  opcode : Opcode
  masked : Bool
  length : Nat
  deriving DecidableEq, Repr

/-- The first `count` bytes and the rest, if there are enough. -/
def takeBytes? (count : Nat) (bytes : List UInt8) : Option (List UInt8 × List UInt8) :=
  if count ≤ bytes.length then some (bytes.take count, bytes.drop count) else none

/-- Reads a length whose seven bits are `short`. -/
def readLength? (short : Nat) (bytes : List UInt8) : Option (Nat × List UInt8) :=
  let width := if short = 126 then 2 else if short = 127 then 8 else 0
  if width = 0 then some (short, bytes)
  else (takeBytes? width bytes).map fun (long, rest) => (ofBigEndian long, rest)

/-- Reads what comes before a payload; there is nothing if bytes are missing. -/
def readHeader? : List UInt8 → Option (Header × List UInt8)
  | first :: second :: rest => do
    let (length, rest) ← readLength? (second.toNat % 128) rest
    let masked := 128 ≤ second.toNat
    let (_, rest) ← takeBytes? (if masked then 4 else 0) rest
    some (⟨128 ≤ first.toNat, first.toNat / 16 % 8 ≠ 0, Opcode.ofFlags first.toUInt32, masked,
      length⟩, rest)
  | _ => none

example : readHeader? (Frame.encode ⟨true, 1, [0x61]⟩) =
    some (⟨true, false, .text, false, 1⟩, [0x61]) := by decide +kernel
example : readHeader? [0x82, 0x7E, 0x01] = none := by decide +kernel

end RobotWeb.WebSocket
