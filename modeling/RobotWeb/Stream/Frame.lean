import RobotWeb.Text.Blank

/-!
# Stream frames

A frame of the event stream: flags, whose low four bits are the opcode, and a text.
-/

namespace RobotWeb.Stream

/-- What a frame is for. Opcodes without a meaning are undefined. -/
inductive Opcode where
  | continuation
  | text
  | binary
  | close
  | ping
  | pong
  | undefined
  deriving DecidableEq, Repr

namespace Opcode

/-- The opcode in the low four bits of the flags. -/
def ofFlags (flags : UInt32) : Opcode :=
  match flags.toNat % 16 with
  | 0 => continuation
  | 1 => text
  | 2 => binary
  | 8 => close
  | 9 => ping
  | 10 => pong
  | _ => undefined

/-- The four bits of the opcode; an undefined one has all of them set. -/
def bits : Opcode → UInt32
  | continuation => 0x0
  | text => 0x1
  | binary => 0x2
  | close => 0x8
  | ping => 0x9
  | pong => 0xA
  | undefined => 0xF

/-- The name of the opcode in the event stream's terms. -/
def name : Opcode → String
  | continuation => "FRAME_OP_CONT"
  | text => "FRAME_OP_TEXT"
  | binary => "FRAME_OP_BINARY"
  | close => "FRAME_OP_CLOSE"
  | ping => "FRAME_OP_PING"
  | pong => "FRAME_OP_PONG"
  | undefined => "FRAME_OP_UNDEFINED"

/-- Whether frames with the opcode carry event markup. -/
def isData : Opcode → Bool
  | continuation | text | binary => true
  | close | ping | pong | undefined => false

end Opcode

/-- One frame of the event stream. -/
structure Frame where
  flags : UInt32
  content : String
  deriving DecidableEq, Repr

namespace Frame

def finalFlag : UInt32 := 0x80

def final (opcode : Opcode) (content : String) : Frame :=
  ⟨finalFlag ||| opcode.bits, content⟩

def text (content : String) : Frame :=
  final .text content

def close : Frame :=
  final .close ""

def opcode (f : Frame) : Opcode :=
  Opcode.ofFlags f.flags

/-- Whether the frame is the last one of its message. -/
def isFinal (f : Frame) : Bool :=
  f.flags &&& finalFlag != 0

end Frame

end RobotWeb.Stream
