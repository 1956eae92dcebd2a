import RobotWeb.Stream.Transport
import RobotWeb.WebSocket.Socket

/-!
# Transport over sockets

The frames of the event stream are the text and binary messages of a socket. Control messages are
answered and never returned.
-/

namespace RobotWeb.WebSocket

open RobotWeb.Stream (FrameRead TransportError)

/-- A stream of messages. -/
class MessageSocket (σ : Type) where
  /-- Reads the next message. -/
  read : σ → Except SocketError Message × σ
  /-- Writes what is queued. -/
  flush : σ → Except SocketError Unit × σ
  /-- Starts the closing handshake. -/
  close : σ → Except SocketError Unit × σ

instance : MessageSocket Socket where
  read := Socket.read
  flush := Socket.flush
  close := Socket.close

/-- What a failure of a read or a flush means for a wait. -/
def readFailure : SocketError → Except TransportError FrameRead
  | .failed fault =>
    if fault.isTimeout then .ok .idle else .error (.read (SocketError.message (.failed fault)))
  | .connectionClosed => .ok .closed
  | .alreadyClosed => .ok .closed
  | .violation rule => .error (.read (SocketError.message (.violation rule)))

/-- The failure of a binary message that is no text. -/
def notText : TransportError :=
  .read "binary frame is not valid UTF-8"

def binaryFrame (data : List UInt8) : Except TransportError FrameRead :=
  match Text.Utf8.decode? data with
  | some content => .ok (.frame (Stream.Frame.final .binary (String.ofList content)))
  | none => .error notText

/-- What a wait gives for a message; control messages give nothing. -/
def messageRead? : Message → Option (Except TransportError FrameRead)
  | .text content => some (.ok (.frame (Stream.Frame.text content)))
  | .binary data => some (binaryFrame data)
  | .close _ => some (.ok .closed)
  | .ping _ | .pong _ | .raw _ => none

/-- Waits for a frame, over at most `limit` messages. After each control message the socket is
flushed, which sends the answer. There is no outcome if the messages are used up. -/
def receiveWithin {σ : Type} [MessageSocket σ] (limit : Nat) (s : σ) :
    Option (Except TransportError FrameRead) × σ :=
  match limit with
  | 0 => (none, s)
  | limit + 1 =>
    match MessageSocket.read s with
    | (.error e, s) => (some (readFailure e), s)
    | (.ok message, s) =>
      match messageRead? message with
      | some read => (some read, s)
      | none =>
        match MessageSocket.flush s with
        | (.error e, s) => (some (readFailure e), s)
        | (.ok (), s) => receiveWithin limit s

/-- What a failure of a flush means for the closing of the stream, which does not wait for it. -/
def closeFailure : SocketError → Except TransportError Unit
  | .connectionClosed | .alreadyClosed => .ok ()
  | e => .error (.close e.message)

/-- Closes the stream: starts the closing handshake and flushes. -/
def closeStream {σ : Type} [MessageSocket σ] (s : σ) : Except TransportError Unit × σ :=
  match MessageSocket.close s with
  | (.error e, s) => (closeFailure e, s)
  | (.ok (), s) =>
    match MessageSocket.flush s with
    | (.ok (), s) => (.ok (), s)
    | (.error (.failed fault), s) =>
      if fault.isTimeout then (.ok (), s) else (closeFailure (.failed fault), s)
    | (.error e, s) => (closeFailure e, s)

instance : Stream.FrameTransport Socket where
  receive s :=
    let (read?, s) := receiveWithin (s.framesLeft + 1) s
    (⟨read?.getD (.ok .idle), false, false⟩, s)
  close := closeStream

end RobotWeb.WebSocket
