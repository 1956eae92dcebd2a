import RobotWeb.Text.Utf8
import RobotWeb.WebSocket.Frame

/-!
# Messages

What a socket receives. A text or binary message may come in several frames; the characters of a
text are decoded as its frames arrive, and a character may be cut by the end of a frame.
-/

namespace RobotWeb.WebSocket

/-- The code and the text that a close frame gives as its reason. -/
structure CloseReason where
  code : Nat
  text : String
  deriving DecidableEq, Repr

namespace CloseReason

def isAllowed (r : CloseReason) : Bool :=
  [1000, 1001, 1002, 1003, 1007, 1008, 1009, 1010, 1011, 1012, 1013].contains r.code ||
    (3000 ≤ r.code && r.code < 5000)

/-- The reason that answers one whose code may not be sent. -/
def violation : CloseReason :=
  ⟨1002, "Protocol violation"⟩

def payload : Option CloseReason → List UInt8
  | none => []
  | some r => bigEndian 2 r.code ++ Text.Utf8.encode r.text.toList

/-- Reads the payload of a close frame; a single byte and an ill-formed text are refused. -/
def ofPayload? : List UInt8 → Option (Option CloseReason)
  | [] => some none
  | [_] => none
  | a :: b :: text =>
    (Text.Utf8.decode? text).map fun cs => some ⟨ofBigEndian [a, b], String.ofList cs⟩

end CloseReason

/-- A message. -/
inductive Message where
  | text (content : String)
  | binary (data : List UInt8)
  | ping (data : List UInt8)
  | pong (data : List UInt8)
  | close (reason : Option CloseReason)
  | raw (frame : Frame)
  deriving DecidableEq, Repr

/-- A message whose last frame has not arrived. The characters of a text that are complete are
listed, and the bytes of an incomplete one follow. -/
inductive Unfinished where
  | text (content : List Char) (tail : List UInt8)
  | binary (data : List UInt8)
  deriving DecidableEq, Repr

namespace Unfinished

/-- Adds the payload of a frame, and tells whether it was well formed. What comes before an
ill-formed part is kept. -/
def extend (m : Unfinished) (payload : List UInt8) : Bool × Unfinished :=
  match m with
  | .binary data => (true, .binary (data ++ payload))
  | .text content tail =>
    let (more, rest) := Text.Utf8.decodePrefix (tail ++ payload)
    if rest.isEmpty || Text.Utf8.isUnfinished rest then (true, .text (content ++ more) rest)
    else (false, .text (content ++ more) [])

/-- The message, unless its last character is cut off. -/
def finish? : Unfinished → Option Message
  | .binary data => some (.binary data)
  | .text content tail => if tail.isEmpty then some (.text (String.ofList content)) else none

end Unfinished

end RobotWeb.WebSocket
