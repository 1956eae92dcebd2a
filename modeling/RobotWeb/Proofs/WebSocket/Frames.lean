import RobotWeb.Proofs.WebSocket.Backlog

/-!
# The frames of a stream of messages

What waits make of a stream of messages: the frames are its texts, in their order, and control
messages are answered on the way and never given.

* `Script`                 — a socket that gives what is written down.
* `filterMap_frameIn?`     — the frames of waits are those that their uses read.
* `stream_gives_messages`  — all of it, for every socket.
-/

namespace RobotWeb.WebSocket

open RobotWeb.Stream (FrameRead FrameTransport TransportError)

/-- The frame that a wait gives. -/
def frameIn? : Except TransportError FrameRead → Option Stream.Frame
  | .ok (.frame frame) => some frame
  | .ok .idle | .ok .closed | .error _ => none

/-- A socket that gives results in the order in which they are written down, and that has nothing to
give where they are not of the use that is made of it. -/
structure Script where
  uses : List Use

instance : MessageSocket Script where
  read
    | ⟨.read result :: uses⟩ => (result, ⟨uses⟩)
    | s => (.error (.failed .wouldBlock), s)
  flush
    | ⟨.flush result :: uses⟩ => (result, ⟨uses⟩)
    | s => (.error (.failed .wouldBlock), s)
  close s := (.ok (), s)

/-- The stream gives the uses that it was made of. -/
theorem Script.gives (uses : List Use) : Uses (⟨uses⟩ : Script) uses ⟨[]⟩ := by
  induction uses with
  | nil => exact .nil _
  | cons use uses ih =>
    cases use with
    | read result => exact .read rfl ih
    | flush result => exact .flush rfl ih

section

variable {uses : List Use} {use : Use} {outcome : Except TransportError FrameRead}
  {outcomes : List (Except TransportError FrameRead)}

theorem SocketError.Gives.frameIn? {e : SocketError} (h : e.Gives outcome) :
    frameIn? outcome = none := by
  cases h <;> rfl

/-- The frame in what a use gives is the frame of the use. -/
theorem Use.Gives.frameIn? (h : use.Gives outcome) : frameIn? outcome = use.frame? := by
  cases h with
  | text | close => rfl
  | binary content => rw [Use.frame?, Text.Utf8.decode?_eq_some.mpr rfl]; rfl
  | @notText data h =>
    cases hdata : Text.Utf8.decode? data with
    | none => rw [Use.frame?, hdata]; rfl
    | some content => exact absurd (Text.Utf8.decode?_eq_some.mp hdata) (h content)
  | unread h | unflushed h => exact h.frameIn?

/-- A use that does not decide has no frame. -/
theorem Use.frame?_of_not_decides (h : use.decides = false) : use.frame? = none := by
  match use with
  | .flush _ | .read (.error _) | .read (.ok (.close _)) => rfl
  | .read (.ok (.ping _)) | .read (.ok (.pong _)) | .read (.ok (.raw _)) => rfl
  | .read (.ok (.text _)) | .read (.ok (.binary _)) => cases h

/-- The frames of waits are those that their uses read, in their order. -/
theorem filterMap_frameIn? (h : List.Forall₂ Use.Gives (uses.filter Use.decides) outcomes) :
    outcomes.filterMap frameIn? = uses.filterMap Use.frame? := by
  induction uses generalizing outcomes with
  | nil =>
    cases h
    rfl
  | cons use uses ih =>
    cases hdecides : use.decides with
    | false =>
      rw [List.filter_cons_of_neg (by simp [hdecides])] at h
      rw [List.filterMap_cons_none (Use.frame?_of_not_decides hdecides), ih h]
    | true =>
      rw [List.filter_cons_of_pos hdecides] at h
      obtain _ | ⟨hgives, hrest⟩ := h
      rw [List.filterMap_cons, List.filterMap_cons, hgives.frameIn?, ih hrest]

/-- What is read as a frame carries event markup and is complete. -/
theorem Use.frame?_eq_some {frame : Stream.Frame} (h : use.frame? = some frame) :
    frame.opcode.isData = true ∧ frame.isFinal = true := by
  match use with
  | .read (.ok (.text content)) =>
    obtain rfl := Option.some.inj h
    have hflags : (Stream.Opcode.ofFlags 0x81).isData = true ∧
        ((0x81 : UInt32) &&& Stream.Frame.finalFlag != 0) = true := by decide
    exact hflags
  | .read (.ok (.binary data)) =>
    obtain ⟨content, -, rfl⟩ := Option.map_eq_some_iff.mp h
    have hflags : (Stream.Opcode.ofFlags 0x82).isData = true ∧
        ((0x82 : UInt32) &&& Stream.Frame.finalFlag != 0) = true := by decide
    exact hflags

end

/-- **A stream gives its messages.** Waits on a socket, however many, use it in an orderly way: they
read message after message, flush once after each control message and at no other time, and stop
with the use that decides the last wait. Each wait gives what its last use gives, so that the frames
are the texts and the binary messages that are texts, as they were sent and in their order. Waits
can be met with any results in any order. A wait gives no outcome only while nothing but control
messages arrives, and on a connection, which brings so many at most, every wait gives one. -/
theorem stream_gives_messages {σ : Type} [MessageSocket σ] (s : σ) :
    (∀ outcomes s', Waits s outcomes s' ↔
      ∃ uses, Uses s uses s' ∧ Orderly uses ∧
        List.Forall₂ Use.Gives (uses.filter Use.decides) outcomes) ∧
    (∀ uses outcomes, List.Forall₂ Use.Gives (uses.filter Use.decides) outcomes →
      outcomes.filterMap frameIn? = uses.filterMap Use.frame? ∧
      (∀ frame ∈ uses.filterMap Use.frame?,
        frame.opcode.isData = true ∧ frame.isFinal = true) ∧
      (Orderly uses → Waits (⟨uses⟩ : Script) outcomes ⟨[]⟩)) ∧
    (∀ limit s', receiveWithin limit s = (none, s') ↔
      ∃ messages, messages.length = limit ∧ (∀ message ∈ messages, message.isControl = true) ∧
        Uses s (answered messages) s') ∧
    ∀ socket : Socket,
      Waits socket [(FrameTransport.receive socket).1.read] (FrameTransport.receive socket).2 := by
  refine ⟨fun outcomes s' => waits_iff_orderly, fun uses outcomes h => ?_,
    fun limit s' => receiveWithin_eq_none, Socket.receive_waits⟩
  refine ⟨filterMap_frameIn? h, fun frame hframe => ?_, fun horderly => ?_⟩
  · obtain ⟨use, -, huse⟩ := List.mem_filterMap.mp hframe
    exact Use.frame?_eq_some huse
  · exact waits_iff_orderly.mpr ⟨uses, Script.gives uses, horderly, h⟩

/-- A control message whose flush finds nothing to write to in time ends the first wait. -/
example : receiveWithin 2 (⟨[.read (.ok (.ping [])), .flush (.error (.failed .timedOut)),
    .read (.ok (.text "a"))]⟩ : Script) = (some (.ok .idle), ⟨[.read (.ok (.text "a"))]⟩) := rfl

end RobotWeb.WebSocket
