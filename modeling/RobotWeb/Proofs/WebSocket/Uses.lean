import Mathlib.Data.List.Chain
import Mathlib.Data.List.Forall2
import RobotWeb.Proofs.Text.Utf8
import RobotWeb.WebSocket.Transport

/-!
# How waits use a socket

A wait for a frame reads messages until one of them decides what it gives, and flushes the socket
once after each control message. The statements hold for every stream of messages, whatever its
reads and its flushes give.

* `Uses`                   — what is asked of a socket, one after the other, and what it gives.
* `Use.Gives`              — what a wait gives that ends with a use.
* `Orderly`                — uses in which each control message is followed by one flush.
* `Waits`                  — waits one after the other.
* `receiveWithin_eq_some`  — one wait by the uses it consists of.
* `orderly_iff`            — orderly uses are those of whole waits.
-/

namespace RobotWeb.WebSocket

open RobotWeb.Stream (FrameRead TransportError)

-- ---------------------------------------------------------------------------
-- Uses of a socket
-- ---------------------------------------------------------------------------

/-- One use of a socket, with its result. -/
inductive Use where
  | read (result : Except SocketError Message)
  | flush (result : Except SocketError Unit)

/-- Messages of the protocol itself, which hold no events and do not end the stream. -/
def Message.isControl : Message → Bool
  | .ping _ | .pong _ | .raw _ => true
  | .text _ | .binary _ | .close _ => false

/-- What a failure of a read or a flush gives. -/
inductive SocketError.Gives : SocketError → Except TransportError FrameRead → Prop where
  | timeout {e : SocketError} (h : e ∈ [.failed .wouldBlock, .failed .timedOut]) :
      Gives e (.ok .idle)
  | ended {e : SocketError} (h : e ∈ [.connectionClosed, .alreadyClosed]) : Gives e (.ok .closed)
  | failed {e : SocketError} (htimeout : e ∉ [.failed .wouldBlock, .failed .timedOut])
      (hended : e ∉ [.connectionClosed, .alreadyClosed]) : Gives e (.error (.read e.message))

namespace Use

def isFlush : Use → Bool
  | read _ => false
  | flush _ => true

/-- A control message was read. -/
def isControl : Use → Bool
  | read (.ok message) => message.isControl
  | read (.error _) | flush _ => false

/-- Whether a wait ends with the use. -/
def decides : Use → Bool
  | read (.ok message) => !message.isControl
  | flush (.ok _) => false
  | read (.error _) | flush (.error _) => true

/-- What a wait gives that ends with the use. -/
inductive Gives : Use → Except TransportError FrameRead → Prop where
  | text (content : String) :
      Gives (.read (.ok (.text content))) (.ok (.frame ⟨0x81, content⟩))
  | binary (content : List Char) :
      Gives (.read (.ok (.binary (Text.Utf8.encode content))))
        (.ok (.frame ⟨0x82, String.ofList content⟩))
  | notText {data : List UInt8} (h : ∀ content, data ≠ Text.Utf8.encode content) :
      Gives (.read (.ok (.binary data))) (.error (.read "binary frame is not valid UTF-8"))
  | close (reason : Option CloseReason) : Gives (.read (.ok (.close reason))) (.ok .closed)
  | unread {e : SocketError} {outcome : Except TransportError FrameRead} (h : e.Gives outcome) :
      Gives (.read (.error e)) outcome
  | unflushed {e : SocketError} {outcome : Except TransportError FrameRead} (h : e.Gives outcome) :
      Gives (.flush (.error e)) outcome

/-- The frame that was read: a final one with the text, or with the bytes if they are a text. -/
def frame? : Use → Option Stream.Frame
  | read (.ok (.text content)) => some ⟨0x81, content⟩
  | read (.ok (.binary data)) =>
    (Text.Utf8.decode? data).map fun content => ⟨0x82, String.ofList content⟩
  | _ => none

end Use

/-- Uses of a socket one after the other, each of the socket that the one before has left. -/
inductive Uses {σ : Type} [MessageSocket σ] : σ → List Use → σ → Prop where
  | nil (s : σ) : Uses s [] s
  | read {s s' last : σ} {result : Except SocketError Message} {uses : List Use}
      (h : MessageSocket.read s = (result, s')) (hrest : Uses s' uses last) :
      Uses s (.read result :: uses) last
  | flush {s s' last : σ} {result : Except SocketError Unit} {uses : List Use}
      (h : MessageSocket.flush s = (result, s')) (hrest : Uses s' uses last) :
      Uses s (.flush result :: uses) last

/-- The uses of whole waits: a flush follows each control message and nothing else, and after the
use that decides the last wait there is none. -/
structure Orderly (uses : List Use) : Prop where
  starts : ∀ use ∈ uses.head?, use.isFlush = false
  flushed : uses.IsChain fun use next => next.isFlush = use.isControl
  ends : ∀ use ∈ uses.getLast?, use.decides = true

/-- The uses of one wait. -/
inductive Turn : List Use → Except TransportError FrameRead → Prop where
  | read {use : Use} {outcome : Except TransportError FrameRead} (hread : use.isFlush = false)
      (h : use.Gives outcome) : Turn [use] outcome
  | unflushed {message : Message} {e : SocketError} {outcome : Except TransportError FrameRead}
      (hmessage : message.isControl = true) (h : (Use.flush (.error e)).Gives outcome) :
      Turn [.read (.ok message), .flush (.error e)] outcome
  | control {message : Message} {uses : List Use} {outcome : Except TransportError FrameRead}
      (hmessage : message.isControl = true) (h : Turn uses outcome) :
      Turn (.read (.ok message) :: .flush (.ok ()) :: uses) outcome

/-- Control messages one after the other, and the flush after each of them. -/
def answered (messages : List Message) : List Use :=
  messages.flatMap fun message => [.read (.ok message), .flush (.ok ())]

/-- Waits one after the other, each with as much patience as it takes. -/
inductive Waits {σ : Type} [MessageSocket σ] :
    σ → List (Except TransportError FrameRead) → σ → Prop where
  | nil (s : σ) : Waits s [] s
  | wait {s s' last : σ} {limit : Nat} {outcome : Except TransportError FrameRead}
      {outcomes : List (Except TransportError FrameRead)}
      (h : receiveWithin limit s = (some outcome, s')) (hrest : Waits s' outcomes last) :
      Waits s (outcome :: outcomes) last

-- ---------------------------------------------------------------------------
-- What a use gives
-- ---------------------------------------------------------------------------

section

variable {outcome : Except TransportError FrameRead}
  {outcomes : List (Except TransportError FrameRead)} {use : Use} {uses uses' : List Use}

/-- What an error of the socket is told as. -/
theorem SocketError.gives_iff {e : SocketError} : e.Gives outcome ↔ outcome = readFailure e := by
  constructor
  · rintro (h | h | ⟨htimeout, hended⟩)
    · rcases (by simpa using h : e = _ ∨ e = _) with rfl | rfl <;> rfl
    · rcases (by simpa using h : e = _ ∨ e = _) with rfl | rfl <;> rfl
    · match e with
      | .failed .wouldBlock | .failed .timedOut => simp at htimeout
      | .connectionClosed | .alreadyClosed => simp at hended
      | .failed .connectionReset | .failed (.other _) | .violation _ => rfl
  · rintro rfl
    match e with
    | .failed .wouldBlock | .failed .timedOut => exact .timeout (by simp)
    | .connectionClosed | .alreadyClosed => exact .ended (by simp)
    | .failed .connectionReset | .failed (.other _) | .violation _ =>
      exact .failed (by simp) (by simp)

/-- What a binary message is told as. -/
theorem gives_binary_iff {data : List UInt8} :
    (Use.read (.ok (.binary data))).Gives outcome ↔ outcome = binaryFrame data := by
  rw [binaryFrame]
  constructor
  · intro h
    cases h with
    | binary content => rw [Text.Utf8.decode?_eq_some.mpr rfl]; rfl
    | notText h =>
      have hnone : Text.Utf8.decode? data = none :=
        Option.eq_none_iff_forall_ne_some.mpr fun content hdata =>
          h content (Text.Utf8.decode?_eq_some.mp hdata)
      rw [hnone]
      rfl
  · rintro rfl
    cases hdata : Text.Utf8.decode? data with
    | none =>
      exact .notText fun content heq => by simp [Text.Utf8.decode?_eq_some.mpr heq] at hdata
    | some content =>
      obtain rfl := Text.Utf8.decode?_eq_some.mp hdata
      exact .binary content

/-- A message gives what the transport makes of it. -/
theorem gives_message_iff {message : Message} :
    (Use.read (.ok message)).Gives outcome ↔ messageRead? message = some outcome := by
  cases message with
  | text content => exact ⟨fun h => by cases h; rfl, fun h => by cases h; exact .text content⟩
  | binary data => rw [gives_binary_iff, messageRead?, Option.some_inj, eq_comm]
  | close reason => exact ⟨fun h => by cases h; rfl, fun h => by cases h; exact .close reason⟩
  | ping | pong | raw => exact ⟨fun h => (by cases h), fun h => (by cases h)⟩

/-- Only control messages are not told. -/
theorem messageRead?_eq_none {message : Message} :
    messageRead? message = none ↔ message.isControl = true := by
  cases message <;> simp [messageRead?, Message.isControl]

/-- A use that gives an outcome decides. -/
theorem Use.Gives.decides (h : use.Gives outcome) : use.decides = true := by
  cases h <;> rfl

-- ---------------------------------------------------------------------------
-- Orderly uses
-- ---------------------------------------------------------------------------

/-- A use is a flush or a read. -/
theorem Use.isFlush_eq_false : use.isFlush = false ↔ ∃ result, use = .read result := by
  cases use <;> simp [Use.isFlush]

/-- A use that decides has read no control message. -/
theorem Use.isControl_of_decides (h : use.decides = true) : use.isControl = false := by
  match use with
  | .read (.ok message) => simpa [Use.decides, Use.isControl] using h
  | .read (.error _) | .flush _ => rfl

theorem mem_getLast?_cons {last : Use} (h : last ∈ uses.getLast?) :
    last ∈ (use :: uses).getLast? := by
  rw [List.getLast?_cons, Option.mem_def.mp h]
  rfl

theorem Orderly.nil : Orderly [] :=
  ⟨by simp, .nil, by simp⟩

/-- A read that decides a wait may stand before orderly uses. -/
theorem Orderly.decided (hread : use.isFlush = false) (hdecides : use.decides = true)
    (h : Orderly uses) : Orderly (use :: uses) := by
  refine ⟨by simpa using hread, List.isChain_cons.mpr ⟨fun next hnext => ?_, h.flushed⟩, ?_⟩
  · rw [h.starts next hnext, Use.isControl_of_decides hdecides]
  · intro last hlast
    cases uses with
    | nil =>
      obtain rfl : use = last := by simpa using hlast
      exact hdecides
    | cons next uses => exact h.ends last (by simpa using hlast)

/-- So may a control message with its flush, unless the wait would lack its end. -/
theorem Orderly.control {message : Message} {result : Except SocketError Unit}
    (hmessage : message.isControl = true)
    (hends : (Use.flush result).decides = true ∨ uses ≠ []) (h : Orderly uses) :
    Orderly (.read (.ok message) :: .flush result :: uses) := by
  refine ⟨by simp [Use.isFlush], ?_, ?_⟩
  · refine List.isChain_cons_cons.mpr ⟨by simpa [Use.isFlush, Use.isControl] using hmessage.symm,
      List.isChain_cons.mpr ⟨fun next hnext => ?_, h.flushed⟩⟩
    rw [h.starts next hnext]
    rfl
  · intro last hlast
    cases uses with
    | nil =>
      obtain rfl : Use.flush result = last := by simpa using hlast
      exact hends.resolve_right (by simp)
    | cons next uses => exact h.ends last (by simpa using hlast)

/-- Orderly uses begin with a read that decides a wait, or with a control message and its flush. -/
theorem Orderly.cases_cons (h : Orderly (use :: uses)) :
    (use.isFlush = false ∧ use.decides = true ∧ Orderly uses) ∨
      ∃ message result rest, use = .read (.ok message) ∧ message.isControl = true ∧
        uses = .flush result :: rest ∧ ((Use.flush result).decides = true ∨ rest ≠ []) ∧
        Orderly rest := by
  have hread : use.isFlush = false := h.starts use (by simp)
  obtain ⟨hfollows, hchain⟩ := List.isChain_cons.mp h.flushed
  obtain ⟨read, rfl⟩ := Use.isFlush_eq_false.mp hread
  -- what decides a wait is no control message, so that no flush comes next
  cases hdecides : (Use.read read).decides with
  | true =>
    refine .inl ⟨rfl, rfl, fun next hnext => ?_, hchain,
      fun last hlast => h.ends last (mem_getLast?_cons hlast)⟩
    rw [hfollows next hnext, Use.isControl_of_decides hdecides]
  | false =>
    match read with
    | .error _ => cases hdecides
    | .ok message =>
      have hmessage : message.isControl = true := by simpa [Use.decides] using hdecides
      cases uses with
      | nil =>
        have hlast := h.ends (.read (.ok message)) (by simp)
        rw [hdecides] at hlast
        cases hlast
      | cons next rest =>
        have hflush : next.isFlush = true := (hfollows next (by simp)).trans hmessage
        match next with
        | .flush result =>
          obtain ⟨hlater, hrest⟩ := List.isChain_cons.mp hchain
          refine .inr ⟨message, result, rest, rfl, hmessage, rfl, ?_, hlater, hrest,
            fun last hlast => h.ends last (mem_getLast?_cons (mem_getLast?_cons hlast))⟩
          cases rest with
          | nil => exact .inl (h.ends (.flush result) (by simp))
          | cons next rest => exact .inr (by simp)

/-- A wait uses the socket at least once. -/
theorem Turn.ne_nil (h : Turn uses outcome) : uses ≠ [] := by
  cases h <;> simp

/-- A wait is decided by its last use. -/
theorem Turn.append (h : Turn uses outcome) (hrest : Orderly uses')
    (hgives : List.Forall₂ Use.Gives (uses'.filter Use.decides) outcomes) :
    Orderly (uses ++ uses') ∧
      List.Forall₂ Use.Gives ((uses ++ uses').filter Use.decides) (outcome :: outcomes) := by
  -- over the turn: its control messages decide nothing, its last use decides
  induction h with
  | read hread h =>
    refine ⟨.decided hread h.decides hrest, ?_⟩
    rw [List.singleton_append, List.filter_cons_of_pos h.decides]
    exact .cons h hgives
  | unflushed hmessage h =>
    refine ⟨.control hmessage (.inl rfl) hrest, ?_⟩
    rw [List.cons_append, List.singleton_append,
      List.filter_cons_of_neg (by simp [Use.decides, hmessage]), List.filter_cons_of_pos rfl]
    exact .cons h hgives
  | control hmessage hturn ih =>
    refine ⟨.control hmessage (.inr ?_) ih.1, ?_⟩
    · simp [hturn.ne_nil]
    · rw [List.cons_append, List.cons_append,
        List.filter_cons_of_neg (by simp [Use.decides, hmessage]),
        List.filter_cons_of_neg (by simp [Use.decides])]
      exact ih.2

/-- Orderly uses are those of whole waits, and each wait gives what its last use gives. -/
theorem orderly_iff :
    (Orderly uses ∧ List.Forall₂ Use.Gives (uses.filter Use.decides) outcomes) ↔
      ∃ turns, uses = turns.flatten ∧ List.Forall₂ Turn turns outcomes := by
  constructor
  · -- by the number of uses, since a control message takes its flush with it
    induction hn : uses.length using Nat.strongRecOn generalizing uses outcomes with
    | ind n ih =>
      rintro ⟨horderly, hgives⟩
      cases uses with
      | nil =>
        cases hgives
        exact ⟨[], rfl, .nil⟩
      | cons use uses =>
        rcases horderly.cases_cons with ⟨hread, hdecides, hrest⟩ |
          ⟨message, result, rest, rfl, hmessage, rfl, hends, hrest⟩
        -- a read that decides is a turn of its own
        · rw [List.filter_cons_of_pos hdecides] at hgives
          obtain _ | ⟨hfirst, hlater⟩ := hgives
          obtain ⟨turns, rfl, hturns⟩ := ih uses.length (by simp [← hn]) rfl ⟨hrest, hlater⟩
          exact ⟨[use] :: turns, rfl, .cons (.read hread hfirst) hturns⟩
        · have hlength : rest.length < n := by
            rw [← hn, List.length_cons, List.length_cons]
            omega
          rw [List.filter_cons_of_neg (by simp [Use.decides, hmessage])] at hgives
          match result with
          | .error e =>
            rw [List.filter_cons_of_pos rfl] at hgives
            obtain _ | ⟨hfirst, hlater⟩ := hgives
            obtain ⟨turns, rfl, hturns⟩ := ih rest.length hlength rfl ⟨hrest, hlater⟩
            exact ⟨_ :: turns, rfl, .cons (.unflushed hmessage hfirst) hturns⟩
          -- the control message belongs to the turn that comes next
          | .ok () =>
            rw [List.filter_cons_of_neg (by simp [Use.decides])] at hgives
            obtain ⟨turns, rfl, hturns⟩ := ih rest.length hlength rfl ⟨hrest, hgives⟩
            cases hturns with
            | nil => simp [Use.decides] at hends
            | cons hfirst hlater => exact ⟨_ :: _, rfl, .cons (.control hmessage hfirst) hlater⟩
  · rintro ⟨turns, rfl, hturns⟩
    induction hturns with
    | nil => exact ⟨.nil, .nil⟩
    | cons hturn _ ih => exact hturn.append ih.1 ih.2

-- ---------------------------------------------------------------------------
-- Waits
-- ---------------------------------------------------------------------------

variable {σ : Type} [MessageSocket σ] {s s' s'' : σ} {limit : Nat}

/-- Uses are put together, and cut, at any point. -/
theorem uses_append_iff :
    Uses s (uses ++ uses') s'' ↔ ∃ s', Uses s uses s' ∧ Uses s' uses' s'' := by
  constructor
  · intro h
    -- over the first part: each of its uses leads to one socket
    induction uses generalizing s with
    | nil => exact ⟨s, .nil s, h⟩
    | cons use uses ih =>
      cases h with
      | read h hrest =>
        obtain ⟨s', huses, hlater⟩ := ih hrest
        exact ⟨s', .read h huses, hlater⟩
      | flush h hrest =>
        obtain ⟨s', huses, hlater⟩ := ih hrest
        exact ⟨s', .flush h huses, hlater⟩
  · rintro ⟨s', h, h'⟩
    induction h with
    | nil => exact h'
    | read h _ ih => exact .read h (ih h')
    | flush h _ ih => exact .flush h (ih h')

/-- A read that fails ends the wait. -/
theorem receiveWithin_of_unread {e : SocketError} (h : MessageSocket.read s = (.error e, s')) :
    receiveWithin (limit + 1) s = (some (readFailure e), s') := by
  simp only [receiveWithin, h]

/-- A message that is told ends the wait. -/
theorem receiveWithin_of_read {message : Message} {outcome : Except TransportError FrameRead}
    (h : MessageSocket.read s = (.ok message, s'))
    (hmessage : messageRead? message = some outcome) :
    receiveWithin (limit + 1) s = (some outcome, s') := by
  simp only [receiveWithin, h, hmessage]

/-- After a control message the wait ends if its reply cannot be flushed. -/
theorem receiveWithin_of_unflushed {message : Message} {e : SocketError}
    (h : MessageSocket.read s = (.ok message, s')) (hmessage : message.isControl = true)
    (hflush : MessageSocket.flush s' = (.error e, s'')) :
    receiveWithin (limit + 1) s = (some (readFailure e), s'') := by
  simp only [receiveWithin, h, messageRead?_eq_none.mpr hmessage, hflush]

/-- After a control message and its flush the wait goes on. -/
theorem receiveWithin_of_control {message : Message}
    (h : MessageSocket.read s = (.ok message, s')) (hmessage : message.isControl = true)
    (hflush : MessageSocket.flush s' = (.ok (), s'')) :
    receiveWithin (limit + 1) s = receiveWithin limit s'' := by
  simp only [receiveWithin, h, messageRead?_eq_none.mpr hmessage, hflush]

/-- A wait begins in one of four ways. -/
theorem wait_cases (s : σ) :
    (∃ e s', MessageSocket.read s = (.error e, s')) ∨
    (∃ message outcome s', MessageSocket.read s = (.ok message, s') ∧
      messageRead? message = some outcome) ∨
    ∃ message s', MessageSocket.read s = (.ok message, s') ∧ message.isControl = true ∧
      ((∃ e s'', MessageSocket.flush s' = (.error e, s'')) ∨
        ∃ s'', MessageSocket.flush s' = (.ok (), s'')) := by
  obtain ⟨⟨result, s'⟩, hread⟩ : ∃ r, MessageSocket.read s = r := ⟨_, rfl⟩
  cases result with
  | error e => exact .inl ⟨e, s', hread⟩
  | ok message =>
    cases hmessage : messageRead? message with
    | some outcome => exact .inr (.inl ⟨message, outcome, s', hread, hmessage⟩)
    | none =>
      obtain ⟨⟨flushed, s''⟩, hflush⟩ : ∃ r, MessageSocket.flush s' = r := ⟨_, rfl⟩
      refine .inr (.inr ⟨message, s', hread, messageRead?_eq_none.mp hmessage, ?_⟩)
      cases flushed with
      | error e => exact .inl ⟨e, s'', hflush⟩
      | ok => exact .inr ⟨s'', hflush⟩

/-- A wait gives an outcome after the uses of a turn. -/
theorem receiveWithin_eq_some :
    (∃ limit, receiveWithin limit s = (some outcome, s')) ↔
      ∃ uses, Uses s uses s' ∧ Turn uses outcome := by
  constructor
  · rintro ⟨limit, h⟩
    induction limit generalizing s with
    | zero => cases h
    | succ limit ih =>
      -- three ways to end the wait, and one to go on after a control message
      rcases wait_cases s with ⟨e, t, hread⟩ | ⟨message, given, t, hread, hmessage⟩ |
        ⟨message, t, hread, hmessage, ⟨e, t', hflush⟩ | ⟨t', hflush⟩⟩
      · rw [receiveWithin_of_unread hread] at h
        obtain ⟨rfl, rfl⟩ := by simpa using h
        exact ⟨_, .read hread (.nil _), .read rfl (.unread (SocketError.gives_iff.mpr rfl))⟩
      · rw [receiveWithin_of_read hread hmessage] at h
        obtain ⟨rfl, rfl⟩ := by simpa using h
        exact ⟨_, .read hread (.nil _), .read rfl (gives_message_iff.mpr hmessage)⟩
      · rw [receiveWithin_of_unflushed hread hmessage hflush] at h
        obtain ⟨rfl, rfl⟩ := by simpa using h
        exact ⟨_, .read hread (.flush hflush (.nil _)),
          .unflushed hmessage (.unflushed (SocketError.gives_iff.mpr rfl))⟩
      · rw [receiveWithin_of_control hread hmessage hflush] at h
        obtain ⟨uses, huses, hturn⟩ := ih h
        exact ⟨_, .read hread (.flush hflush huses), .control hmessage hturn⟩
  · rintro ⟨uses, huses, hturn⟩
    -- over the turn: each of its control messages takes one more of the limit
    induction hturn generalizing s with
    | read hread hgives =>
      obtain ⟨result, rfl⟩ := Use.isFlush_eq_false.mp hread
      obtain _ | ⟨h, hrest⟩ | _ := huses
      cases hrest
      match result with
      | .error e =>
        cases hgives with
        | unread hgives => exact ⟨1, SocketError.gives_iff.mp hgives ▸ receiveWithin_of_unread h⟩
      | .ok message => exact ⟨1, receiveWithin_of_read h (gives_message_iff.mp hgives)⟩
    | unflushed hmessage hgives =>
      obtain _ | ⟨h, _ | _ | ⟨hflush, hrest⟩⟩ | _ := huses
      cases hrest
      cases hgives with
      | unflushed hgives =>
        exact ⟨1, SocketError.gives_iff.mp hgives ▸ receiveWithin_of_unflushed h hmessage hflush⟩
    | control hmessage _ ih =>
      obtain _ | ⟨h, _ | _ | ⟨hflush, hrest⟩⟩ | _ := huses
      obtain ⟨limit, hlimit⟩ := ih hrest
      exact ⟨limit + 1, (receiveWithin_of_control h hmessage hflush).trans hlimit⟩

/-- A wait gives no outcome only if its patience is used up by control messages. -/
theorem receiveWithin_eq_none :
    receiveWithin limit s = (none, s') ↔
      ∃ messages, messages.length = limit ∧ (∀ message ∈ messages, message.isControl = true) ∧
        Uses s (answered messages) s' := by
  -- over the limit, one for each control message
  induction limit generalizing s with
  | zero =>
    constructor
    · intro h
      obtain rfl : s = s' := (Prod.mk.inj h).2
      exact ⟨[], rfl, by simp, .nil s⟩
    · rintro ⟨messages, hlength, -, huses⟩
      obtain rfl := List.length_eq_zero_iff.mp hlength
      cases huses
      rfl
  | succ limit ih =>
    constructor
    · intro h
      rcases wait_cases s with ⟨e, t, hread⟩ | ⟨message, given, t, hread, hmessage⟩ |
        ⟨message, t, hread, hmessage, ⟨e, t', hflush⟩ | ⟨t', hflush⟩⟩
      · rw [receiveWithin_of_unread hread] at h
        cases h
      · rw [receiveWithin_of_read hread hmessage] at h
        cases h
      · rw [receiveWithin_of_unflushed hread hmessage hflush] at h
        cases h
      · rw [receiveWithin_of_control hread hmessage hflush] at h
        obtain ⟨messages, hlength, hmessages, huses⟩ := ih.mp h
        exact ⟨message :: messages, by simp [hlength],
          List.forall_mem_cons.mpr ⟨hmessage, hmessages⟩, .read hread (.flush hflush huses)⟩
    · rintro ⟨_ | ⟨message, messages⟩, hlength, hmessages, huses⟩
      · cases hlength
      · obtain ⟨hmessage, hmessages⟩ := List.forall_mem_cons.mp hmessages
        obtain _ | ⟨hread, _ | _ | ⟨hflush, hrest⟩⟩ | _ := huses
        rw [receiveWithin_of_control hread hmessage hflush]
        exact ih.mpr ⟨messages, Nat.succ.inj hlength, hmessages, hrest⟩

/-- Waits are the turns of the socket, one after the other, each with its outcome. -/
theorem waits_iff :
    Waits s outcomes s' ↔ ∃ turns, Uses s turns.flatten s' ∧ List.Forall₂ Turn turns outcomes := by
  constructor
  · intro h
    induction h with
    | nil s => exact ⟨[], .nil s, .nil⟩
    | wait h _ ih =>
      obtain ⟨uses, huses, hturn⟩ := receiveWithin_eq_some.mp ⟨_, h⟩
      obtain ⟨turns, hlater, hturns⟩ := ih
      exact ⟨uses :: turns, uses_append_iff.mpr ⟨_, huses, hlater⟩, .cons hturn hturns⟩
  · rintro ⟨turns, huses, hturns⟩
    -- the uses of the socket are cut where the first turn ends
    induction hturns generalizing s with
    | nil =>
      cases huses
      exact .nil _
    | cons hturn _ ih =>
      obtain ⟨t, hfirst, hlater⟩ := uses_append_iff.mp huses
      obtain ⟨limit, hlimit⟩ := receiveWithin_eq_some.mpr ⟨_, hfirst, hturn⟩
      exact .wait hlimit (ih hlater)

/-- Waits are orderly uses of a socket, and each gives what its last use gives. -/
theorem waits_iff_orderly :
    Waits s outcomes s' ↔
      ∃ uses, Uses s uses s' ∧ Orderly uses ∧
        List.Forall₂ Use.Gives (uses.filter Use.decides) outcomes := by
  rw [waits_iff]
  constructor
  · rintro ⟨turns, huses, hturns⟩
    exact ⟨turns.flatten, huses, orderly_iff.mpr ⟨turns, rfl, hturns⟩⟩
  · rintro ⟨uses, huses, horderly⟩
    obtain ⟨turns, rfl, hturns⟩ := orderly_iff.mp horderly
    exact ⟨turns, huses, hturns⟩

end

end RobotWeb.WebSocket
