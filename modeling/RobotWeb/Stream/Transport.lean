import RobotWeb.Http.Client
import RobotWeb.Stream.Error
import RobotWeb.Stream.Frame

/-!
# Transports of frames

What a session reads frames from, and what opens it. A wait for a frame is bounded; while it
lasts, and after it, other threads may ask the session to close.
-/

namespace RobotWeb.Stream

/-- What comes of a wait for a frame. -/
inductive FrameRead where
  | frame (f : Frame)
  /-- No frame arrived in time. -/
  | idle
  /-- The controller closed the stream. -/
  | closed
  deriving DecidableEq, Repr

/-- One bounded wait, and whether another thread asked to close while it lasted, or between the
look at that request that follows the wait and the next wait. -/
structure Wait where
  read : Except TransportError FrameRead
  askedDuring : Bool := false
  askedAfter : Bool := false

/-- An open stream of frames. -/
class FrameTransport (τ : Type) where
  /-- Waits for the next frame. -/
  receive : τ → Wait × τ
  /-- Closes the stream. -/
  close : τ → Except TransportError Unit × τ

/-- How a stream is opened and read. -/
structure Options where
  /-- The sub-protocol that is spoken. -/
  protocol : String := "rws_subscription"
  /-- How long one wait for a frame takes at most. -/
  pollInterval : Duration := ⟨0, 500_000_000, by decide, by decide⟩
  deriving DecidableEq, Repr

/-- Where the events of a group are streamed. -/
structure Locator where
  group : String
  url : Url
  deriving DecidableEq, Repr

/-- What opens the stream of a new group. -/
class StreamConnector (κ : Type) (τ : outParam Type) where
  /-- Opens the stream. -/
  connect : κ → Http.Client → Locator → Options → Except TransportError τ × κ

end RobotWeb.Stream
