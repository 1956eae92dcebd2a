import RobotWeb.Stream.Transport

/-!
# Recorded streams

A tape plays the outcomes of waits that were recorded before, so that a session can run without a
controller. When they are used up, the stream is closed.
-/

namespace RobotWeb.Stream

/-- A recorded stream. Closing it fails if there is a reason to. -/
structure Tape where
  waits : List Wait := []
  closeFault? : Option String := none

instance : FrameTransport Tape where
  receive t :=
    match t.waits with
    | [] => (⟨.ok .closed, false, false⟩, t)
    | wait :: rest => (wait, { t with waits := rest })
  close t :=
    match t.closeFault? with
    | some message => (.error (.close message), t)
    | none => (.ok (), t)

/-- Plays one tape, or refuses to. -/
structure TapePlayer where
  tape : Tape := {}
  refusal? : Option String := none

instance : StreamConnector TapePlayer Tape where
  connect p _ locator _ :=
    match p.refusal? with
    | some message => (.error (.connect locator.url.text message), p)
    | none => (.ok p.tape, p)

def Tape.append (t : Tape) (waits : List Wait) : Tape :=
  { t with waits := t.waits ++ waits }

/-- Adds waits at the end of the tape that is to be played. -/
def TapePlayer.append (p : TapePlayer) (waits : List Wait) : TapePlayer :=
  { p with tape := p.tape.append waits }

end RobotWeb.Stream
