import RobotWeb.WebSocket.Connection
import RobotWeb.WebSocket.Message

/-!
# Sockets

The client's end of a message stream over a connection. A ping is answered by a pong and a close
frame by its echo; both answers are queued and written at the next read or flush. The closing
handshake is complete when both sides have sent a close frame.
-/

namespace RobotWeb.WebSocket

/-- Where a socket is in its closing handshake. -/
inductive Closing where
  | open
  | closedByUs
  | closedByPeer
  | acknowledged
  | terminated
  deriving DecidableEq, Repr

/-- Whether frames of the peer are still expected. -/
def Closing.canRead : Closing → Bool
  | .open | .closedByUs => true
  | _ => false

/-- Why an operation of a socket failed. -/
inductive SocketError where
  /-- The connection failed. -/
  | failed (fault : Fault)
  /-- The connection ended after the closing handshake. -/
  | connectionClosed
  /-- The socket has ended before. -/
  | alreadyClosed
  /-- The peer broke the rules of the protocol. -/
  | violation (rule : String)
  deriving DecidableEq, Repr

def SocketError.message : SocketError → String
  | .failed fault => "IO error: " ++ fault.message
  | .connectionClosed => "Connection closed normally"
  | .alreadyClosed => "Trying to work with closed connection"
  | .violation rule => "WebSocket protocol error: " ++ rule

/-- What has arrived and is not yet read: bytes, the header of the frame that they begin with if
it was read before, and what is to arrive. -/
structure Inbox where
  buffer : List UInt8 := []
  header? : Option Header := none
  arrivals : List Arrival := []

/-- The client's end of a message stream. -/
structure Socket where
  connection : Connection := {}
  buffer : List UInt8 := []
  header? : Option Header := none
  joining? : Option Unfinished := none
  closing : Closing := .open
  /-- A pong or an echo of a close frame that is not yet among the outgoing frames. -/
  reply? : Option Frame := none
  /-- Whether a reply could not be flushed. -/
  replyWaits : Bool := false
  outgoing : List Frame := []

-- ---------------------------------------------------------------------------
-- Frames that arrive
-- ---------------------------------------------------------------------------

/-- What is at the front of the bytes that have arrived. -/
inductive Front where
  | frame (header : Header) (payload : List UInt8)
  /-- More bytes are needed. -/
  | incomplete
  /-- A header that breaks a rule. -/
  | violation (rule : String)

/-- The largest payload that is accepted, in bytes. -/
def maxPayload : Nat := 16 * 1024 * 1024

def takePayload (header : Header) (bytes : List UInt8) : Front × List UInt8 × Option Header :=
  if maxPayload < header.length then (.violation "frame too long", bytes, some header)
  else
    match takeBytes? header.length bytes with
    | some (payload, rest) => (.frame header payload, rest, none)
    | none => (.incomplete, bytes, some header)

/-- Takes what is at the front of the bytes; `header?` was read before. A header of no known kind
is taken away, and its payload stays. -/
def takeFront (bytes : List UInt8) (header? : Option Header) :
    Front × List UInt8 × Option Header :=
  match header? with
  | some header => takePayload header bytes
  | none =>
    match readHeader? bytes with
    | none => (.incomplete, bytes, none)
    | some (header, rest) =>
      if header.opcode = .undefined then (.violation "invalid opcode", rest, none)
      else takePayload header rest

/-- What a wait for a frame gives. -/
inductive Fetched where
  | frame (header : Header) (payload : List UInt8)
  | violation (rule : String)
  | fault (fault : Fault)
  | endOfStream

/-- Waits for a frame: reads from the connection until one is complete. -/
def fetch (bytes : List UInt8) (header? : Option Header) :
    (arrivals : List Arrival) → Fetched × Inbox
  | [] =>
    match takeFront bytes header? with
    | (.frame header payload, bytes, header?) => (.frame header payload, ⟨bytes, header?, []⟩)
    | (.violation rule, bytes, header?) => (.violation rule, ⟨bytes, header?, []⟩)
    | (.incomplete, bytes, header?) => (.fault .wouldBlock, ⟨bytes, header?, []⟩)
  | arrival :: rest =>
    match takeFront bytes header? with
    | (.frame header payload, bytes, header?) =>
      (.frame header payload, ⟨bytes, header?, arrival :: rest⟩)
    | (.violation rule, bytes, header?) => (.violation rule, ⟨bytes, header?, arrival :: rest⟩)
    | (.incomplete, bytes, header?) =>
      match arrival with
      | .bytes more => fetch (bytes ++ more) header? rest
      | .fault fault => (.fault fault, ⟨bytes, header?, rest⟩)
      | .endOfStream => (.endOfStream, ⟨bytes, header?, rest⟩)

namespace Socket

def fetchFrame (s : Socket) : Fetched × Socket :=
  let (fetched, inbox) := fetch s.buffer s.header? s.connection.arrivals
  (fetched, { s with
    buffer := inbox.buffer
    header? := inbox.header?
    connection := { s.connection with arrivals := inbox.arrivals } })

-- ---------------------------------------------------------------------------
-- Writing
-- ---------------------------------------------------------------------------

/-- Queues a reply, which only takes the place of a pong. -/
def setReply (s : Socket) (reply : Frame) : Socket :=
  match s.reply? with
  | none => { s with reply? := some reply }
  | some waiting =>
    if waiting.opcode = Stream.Opcode.pong.bits.toUInt8 then { s with reply? := some reply } else s

def queueReply (s : Socket) : Socket :=
  { s with outgoing := s.outgoing ++ s.reply?.toList, reply? := none }

/-- Writes and flushes the outgoing frames and the reply. Frames that could not be written stay
queued. -/
def flush (s : Socket) : Except SocketError Unit × Socket :=
  let s := s.queueReply
  match s.connection.write s.outgoing with
  | (.error fault, connection) => (.error (.failed fault), { s with connection })
  | (.ok (), connection) =>
    match connection.flush with
    | (.error fault, connection) =>
      (.error (.failed fault), { s with connection, outgoing := [] })
    | (.ok (), connection) => (.ok (), { s with connection, outgoing := [], replyWaits := false })

/-- Sends a close frame, if none was sent or received, and flushes. -/
def close (s : Socket) : Except SocketError Unit × Socket :=
  if s.closing = .open then
    flush { s with
      closing := .closedByUs
      outgoing := s.outgoing ++ [Frame.ofOpcode .close []] }
  else s.flush

-- ---------------------------------------------------------------------------
-- Reading
-- ---------------------------------------------------------------------------

/-- Receives a close frame: the first one is echoed, and one that answers ours is not. -/
def receiveClose (s : Socket) (reason : Option CloseReason) : Message × Socket :=
  match s.closing with
  | .open =>
    let reply := reason.map fun r => if r.isAllowed then r else CloseReason.violation
    (.close reply, { s with closing := .closedByPeer }.setReply
      (Frame.ofOpcode .close (CloseReason.payload reply)))
  | .closedByUs => (.close reason, { s with closing := .acknowledged })
  | _ => (.close reason, s)

def receiveControl (s : Socket) (opcode : Stream.Opcode) (payload : List UInt8) :
    Except SocketError (Option Message) × Socket :=
  match opcode with
  | .close =>
    match CloseReason.ofPayload? payload with
    | none => (.error (.violation "invalid close frame"), s)
    | some reason =>
      let (message, s) := s.receiveClose reason
      (.ok (some message), s)
  | .ping =>
    let s := if s.closing = .open then s.setReply (Frame.ofOpcode .pong payload) else s
    (.ok (some (.ping payload)), s)
  | _ => (.ok (some (.pong payload)), s)

def continueMessage (s : Socket) (m : Unfinished) (final : Bool) (payload : List UInt8) :
    Except SocketError (Option Message) × Socket :=
  match m.extend payload with
  | (false, m) => (.error (.violation "text is not UTF-8"), { s with joining? := some m })
  | (true, m) =>
    if final then
      match m.finish? with
      | some message => (.ok (some message), { s with joining? := none })
      | none => (.error (.violation "text is not UTF-8"), { s with joining? := none })
    else (.ok none, { s with joining? := some m })

/-- Receives a data frame: the first one of a message, or one that continues it. -/
def receiveData (s : Socket) (opcode : Stream.Opcode) (final : Bool) (payload : List UInt8) :
    Except SocketError (Option Message) × Socket :=
  match opcode, s.joining? with
  | .continuation, none => (.error (.violation "nothing to continue"), s)
  | .continuation, some m => s.continueMessage m final payload
  | _, some _ => (.error (.violation "message is not finished"), s)
  | opcode, none =>
    let empty : Unfinished := if opcode = .text then .text [] [] else .binary []
    match s.continueMessage empty final payload with
    | (.error e, s) => (.error e, { s with joining? := none })
    | result => result

def receiveFrame (s : Socket) (header : Header) (payload : List UInt8) :
    Except SocketError (Option Message) × Socket :=
  if !s.closing.canRead then (.error (.violation "data after the close frame"), s)
  else if header.reserved then (.error (.violation "reserved bits are set"), s)
  else if header.masked then (.error (.violation "frame is masked"), s)
  else if header.opcode.isData then s.receiveData header.opcode header.final payload
  else if !header.final then (.error (.violation "control frame in parts"), s)
  else if 125 < payload.length then (.error (.violation "control frame too long"), s)
  else s.receiveControl header.opcode payload

def receiveFetched (s : Socket) : Fetched → Except SocketError (Option Message) × Socket
  | .frame header payload => s.receiveFrame header payload
  | .violation rule => (.error (.violation rule), s)
  | .fault fault =>
    if !s.closing.canRead && fault = .connectionReset then (.error .connectionClosed, s)
    else (.error (.failed fault), s)
  | .endOfStream =>
    let ended := { s with closing := .terminated }
    if s.closing.canRead then (.error (.violation "end without closing handshake"), ended)
    else (.error .connectionClosed, ended)

/-- Writes a waiting reply; it waits on if the connection would block. -/
def flushReply (s : Socket) : Except SocketError Unit × Socket :=
  if s.reply?.isSome || s.replyWaits then
    match s.flush with
    | (.error (.failed .wouldBlock), s) => (.ok (), { s with replyWaits := true })
    | result => result
  else (.ok (), s)

/-- Reads the next message, from at most `limit` frames. -/
def readWithin (limit : Nat) (s : Socket) : Except SocketError Message × Socket :=
  match limit with
  | 0 => (.error (.failed .wouldBlock), s)
  | limit + 1 =>
    match s.flushReply with
    | (.error e, s) => (.error e, s)
    | (.ok (), s) =>
      let (fetched, s) := s.fetchFrame
      match s.receiveFetched fetched with
      | (.error e, s) => (.error e, s)
      | (.ok (some message), s) => (.ok message, s)
      | (.ok none, s) => readWithin limit s

/-- The number of bytes that an arrival brings. -/
def arrivalSize : Arrival → Nat
  | .bytes bytes => bytes.length
  | _ => 0

/-- At least the number of frames that can be read before the connection blocks: every frame takes
a byte or more. -/
def framesLeft (s : Socket) : Nat :=
  s.buffer.length + (s.connection.arrivals.map arrivalSize).foldl (· + ·) 0 + 1

def read (s : Socket) : Except SocketError Message × Socket :=
  if s.closing = .terminated then (.error .alreadyClosed, s)
  else readWithin (s.framesLeft + 1) s

end Socket

end RobotWeb.WebSocket
