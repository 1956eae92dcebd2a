import RobotWeb.WebSocket.Frame

/-!
# Connections

The byte stream under a socket: what arrives on it, which of its operations fail, and what was
written to it.
-/

namespace RobotWeb.WebSocket

/-- Why an operation of a connection failed. -/
inductive Fault where
  | wouldBlock
  | timedOut
  | connectionReset
  | other (kind : String)
  deriving DecidableEq, Repr

def Fault.isTimeout : Fault → Bool
  | wouldBlock | timedOut => true
  | _ => false

def Fault.message : Fault → String
  | wouldBlock => "operation would block"
  | timedOut => "timed out"
  | connectionReset => "connection reset"
  | other kind => kind

def Fault.ofKind (kind : String) : Fault :=
  match kind with
  | "WouldBlock" => wouldBlock
  | "TimedOut" => timedOut
  | "ConnectionReset" => connectionReset
  | kind => other kind

/-- What a read of a connection gives. -/
inductive Arrival where
  | bytes (bytes : List UInt8)
  | fault (fault : Fault)
  | endOfStream
  deriving DecidableEq, Repr

/-- A connection. Reads block when nothing is left to arrive; flushes fail after `flushesLeft`
more successful ones. -/
structure Connection where
  arrivals : List Arrival := []
  writeFault? : Option Fault := none
  flushFault? : Option Fault := none
  flushesLeft : Nat := 0
  written : List Frame := []

namespace Connection

/-- Writes frames; nothing is written if it fails. -/
def write (c : Connection) (frames : List Frame) : Except Fault Unit × Connection :=
  match c.writeFault? with
  | some fault => if frames.isEmpty then (.ok (), c) else (.error fault, c)
  | none => (.ok (), { c with written := c.written ++ frames })

def flush (c : Connection) : Except Fault Unit × Connection :=
  match c.flushFault? with
  | none => (.ok (), c)
  | some fault =>
    match c.flushesLeft with
    | 0 => (.error fault, c)
    | left + 1 => (.ok (), { c with flushesLeft := left })

end Connection

end RobotWeb.WebSocket
