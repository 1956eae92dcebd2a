import RobotWeb.Stream.Session

/-!
# What the steps of a session change

One equation for each step that the operations are made of. Each says which parts of the session
change and, by that, that all others stay, so that no later proof has to open the step again.

* `shutDown_of_open`, `fail_of_open` — both ways to end a session with an open stream.
* `conclude_cases`                   — a wait leaves the session open, shuts it down or fails it.
* `shutDown_keeps`, `fail_keeps`, `conclude_keeps` — none of them routes otherwise, forgets a
  request to close, or waits.
* `receive_of_requested`, `receive_of_open`, `receive_of_wait` — a receive, by whether the session
  was asked to close.
* `run_cases`, `run_of_staysOpen`, `run_of_closed`, `run_of_failed` — a run, by what comes of its
  first receive.
-/

namespace RobotWeb.Stream.Session

variable {κ τ η : Type}

/-- Noting requests changes nothing but whether the session is asked to close. -/
theorem noteRequests_eq (subscriber : Subscriber η) (wait : Wait)
    (result : Except SessionError Received × η × Session κ τ) :
    ∃ closeRequested, noteRequests subscriber wait result =
      (result.1, result.2.1, { result.2.2 with closeRequested }) := by
  obtain ⟨outcome, state, s⟩ := result
  exact ⟨_, rfl⟩

/-- The session with another journal. -/
def logged (s : Session κ τ) (journal : List Log.Record) : Session κ τ :=
  { s with client := { s.client with journal } }

-- ---------------------------------------------------------------------------
-- Ending
-- ---------------------------------------------------------------------------

/-- Deleting the group forgets it, whatever the controller answers. -/
theorem unsubscribe_of_some {s : Session κ τ} {group : String} (hg : s.group? = some group) :
    ∃ client deleted, s.unsubscribe =
      { s with client, group? := none, trace := s.trace ++ [.unsubscribe group deleted] } := by
  simp only [unsubscribe, hg]
  split
  · exact ⟨_, true, rfl⟩
  · exact ⟨_, false, rfl⟩

/-- The router and the request to close are the same, and no wait has begun. -/
structure Keeps (s s' : Session κ τ) : Prop where
  router : s'.router = s.router
  requested : s'.closeRequested = s.closeRequested
  waits : s'.trace.count .receive = s.trace.count .receive

theorem Keeps.trans {s s' s'' : Session κ τ} (h : s.Keeps s') (h' : s'.Keeps s'') : s.Keeps s'' :=
  ⟨h'.router.trans h.router, h'.requested.trans h.requested, h'.waits.trans h.waits⟩

theorem logged_keeps (s : Session κ τ) (journal : List Log.Record) : s.Keeps (s.logged journal) :=
  ⟨rfl, rfl, rfl⟩

/-- Deleting the group keeps the router and the request, and is no wait. -/
theorem unsubscribe_keeps (s : Session κ τ) : s.Keeps s.unsubscribe := by
  rcases Option.eq_none_or_eq_some s.group? with hg | ⟨group, hg⟩
  · rw [show s.unsubscribe = s by simp [unsubscribe, hg]]
    exact ⟨rfl, rfl, rfl⟩
  · obtain ⟨client, deleted, hs⟩ := unsubscribe_of_some hg
    rw [hs]
    exact ⟨rfl, rfl, by simp⟩

variable [FrameTransport τ]

/-- Only a session that was not opened and one with an open stream have something to close. -/
theorem close_of_neither {s : Session κ τ} (hunopened : s.phase ≠ .unopened)
    (hactive : s.phase ≠ .active) : s.close = s := by
  unfold close
  split <;> simp_all

/-- Without a stream there is nothing to close. -/
theorem closeStream_of_none {s : Session κ τ} (ht : s.transport? = none) : s.closeStream = s := by
  simp [closeStream, ht]

/-- Closing the stream lets go of it, whatever comes of that. -/
theorem closeStream_of_some {s : Session κ τ} {transport : τ} (ht : s.transport? = some transport) :
    s.closeStream =
      { s with
        transport? := none
        released := s.released ++ [(FrameTransport.close transport).2]
        trace := s.trace ++ [.closeStream (FrameTransport.close transport).1.isOk] } := by
  simp only [closeStream, ht]
  rfl

/-- Shutting down deletes the group first and closes the stream then. -/
theorem shutDown_of_open {s : Session κ τ} {group : String} {transport : τ}
    (hg : s.group? = some group) (ht : s.transport? = some transport) :
    ∃ client deleted, s.shutDown =
      { s with
        client, group? := none, transport? := none, phase := .closed
        released := s.released ++ [(FrameTransport.close transport).2]
        trace := s.trace ++ [.unsubscribe group deleted,
          .closeStream (FrameTransport.close transport).1.isOk] } := by
  obtain ⟨client, deleted, hu⟩ := unsubscribe_of_some (s := { s with phase := .closing }) hg
  have hc := closeStream_of_some
    (s := { s with
      phase := .closing, client, group? := none
      trace := s.trace ++ [.unsubscribe group deleted] }) ht
  refine ⟨client.note .info "subscription session closed", deleted, ?_⟩
  simp [shutDown, hu, hc, note]

/-- Failing closes the stream first and deletes the group then. -/
theorem fail_of_open {s : Session κ τ} {group : String} {transport : τ}
    (hg : s.group? = some group) (ht : s.transport? = some transport) :
    ∃ client deleted, s.fail =
      { s with
        client, group? := none, transport? := none, phase := .failed
        released := s.released ++ [(FrameTransport.close transport).2]
        trace := s.trace ++ [.closeStream (FrameTransport.close transport).1.isOk,
          .unsubscribe group deleted] } := by
  obtain ⟨client, deleted, hu⟩ := unsubscribe_of_some (s := s.closeStream)
    (by rw [closeStream_of_some ht]; exact hg)
  refine ⟨client, deleted, ?_⟩
  rw [fail, hu, closeStream_of_some ht]
  simp

/-- Without a stream, failing deletes the group only. -/
theorem fail_of_unconnected {s : Session κ τ} {group : String}
    (hg : s.group? = some group) (ht : s.transport? = none) :
    ∃ client deleted, s.fail =
      { s with
        client, group? := none, phase := .failed
        trace := s.trace ++ [.unsubscribe group deleted] } := by
  obtain ⟨client, deleted, hu⟩ := unsubscribe_of_some hg
  refine ⟨client, deleted, ?_⟩
  simp [fail, closeStream_of_none ht, hu]

/-- Closing the stream keeps them as well. -/
theorem closeStream_keeps (s : Session κ τ) : s.Keeps s.closeStream := by
  rcases Option.eq_none_or_eq_some s.transport? with ht | ⟨transport, ht⟩
  · rw [closeStream_of_none ht]
    exact ⟨rfl, rfl, rfl⟩
  · rw [closeStream_of_some ht]
    exact ⟨rfl, rfl, by simp⟩

/-- So ending a session keeps them, in whichever order. -/
theorem shutDown_keeps (s : Session κ τ) : s.Keeps s.shutDown := by
  have h := (unsubscribe_keeps { s with phase := .closing }).trans (closeStream_keeps _)
  exact ⟨h.router, h.requested, h.waits⟩

theorem fail_keeps (s : Session κ τ) : s.Keeps s.fail := by
  have h := s.closeStream_keeps.trans (unsubscribe_keeps _)
  exact ⟨h.router, h.requested, h.waits⟩

-- ---------------------------------------------------------------------------
-- Receiving
-- ---------------------------------------------------------------------------

/-- Whether a session is still open after a receive with this outcome. -/
def staysOpen : Except SessionError Received → Bool
  | .ok .closed => false
  | .ok _ => true
  | .error (.frame _) => true
  | .error _ => false

/-- A frame is delivered, ignored or rejected, and nothing but the journal changes, or it closes the
stream. -/
theorem deliver_cases (s : Session κ τ) (subscriber : Subscriber η) (state : η) (frame : Frame) :
    (∃ journal, (s.deliver subscriber state frame).2.2 = s.logged journal ∧
      staysOpen (s.deliver subscriber state frame).1 = true) ∨
    (frame.opcode = .close ∧
      s.deliver subscriber state frame = (.ok .closed, state, s.shutDown)) := by
  unfold deliver
  split
  · rename_i hf
    exact .inr ⟨hf, rfl⟩
  · refine .inl ?_
    split
    · exact ⟨s.client.journal, rfl, rfl⟩
    · split
      · exact ⟨_, rfl, rfl⟩
      · split
        · exact ⟨_, rfl, rfl⟩
        · exact ⟨s.client.journal, rfl, rfl⟩

/-- After a wait the session goes on with nothing but its journal changed, or it is shut down, or it
fails because the wait failed. -/
theorem conclude_cases (s : Session κ τ) (subscriber : Subscriber η) (state : η)
    (read : Except TransportError FrameRead) :
    (∃ journal, (s.conclude subscriber state read).2.2 = s.logged journal ∧
      staysOpen (s.conclude subscriber state read).1 = true) ∨
    s.conclude subscriber state read = (.ok .closed, state, s.shutDown) ∨
    ∃ e, read = .error e ∧ s.conclude subscriber state read =
      (.error (.transport e), state, (s.note .error "event stream failed").fail) := by
  -- a frame is delivered; an idle read ends the session only if it is asked to close
  match read with
  | .ok (.frame frame) =>
    rcases deliver_cases s subscriber state frame with h | ⟨-, h⟩
    · exact .inl h
    · exact .inr (.inl h)
  | .ok .idle =>
    simp only [conclude]
    split
    · exact .inr (.inl rfl)
    · exact .inl ⟨s.client.journal, rfl, rfl⟩
  | .ok .closed => exact .inr (.inl rfl)
  | .error e => exact .inr (.inr ⟨e, rfl, rfl⟩)

/-- A read changes none of them, whatever it leads to. -/
theorem conclude_keeps (s : Session κ τ) (subscriber : Subscriber η) (state : η)
    (read : Except TransportError FrameRead) :
    s.Keeps (s.conclude subscriber state read).2.2 := by
  rcases s.conclude_cases subscriber state read with ⟨journal, hs, -⟩ | hs | ⟨e, -, hs⟩
  · rw [hs]
    exact s.logged_keeps journal
  · rw [hs]
    exact s.shutDown_keeps
  · rw [hs]
    have h := (s.note .error "event stream failed").fail_keeps
    exact ⟨h.router, h.requested, h.waits⟩

/-- A session that was asked to close is shut down without a wait. -/
theorem receive_of_requested {s : Session κ τ} (hp : s.phase = .active)
    (hr : s.closeRequested = true) (subscriber : Subscriber η) (state : η) :
    s.receive subscriber state = (.ok .closed, state, s.shutDown) := by
  simp [receive, hp, hr]

/-- The session as it is while it judges what came of a wait. -/
def afterWait (s : Session κ τ) (wait : Wait) (transport : τ) : Session κ τ :=
  { s with
    transport? := some transport
    closeRequested := s.closeRequested || wait.askedDuring
    trace := s.trace ++ [.receive] }

/-- A session that was not asked to close waits once and goes on by what came of it. -/
theorem receive_of_open {s : Session κ τ} {transport left : τ} {wait : Wait}
    (hp : s.phase = .active) (hr : s.closeRequested = false) (ht : s.transport? = some transport)
    (hw : FrameTransport.receive transport = (wait, left)) (subscriber : Subscriber η) (state : η) :
    s.receive subscriber state =
      noteRequests subscriber wait
        ((s.afterWait wait left).conclude subscriber state wait.read) := by
  simp [receive, hp, hr, ht, hw, afterWait, record]

/-- What it concludes from the wait is all that becomes of it, but for a request that is noted. -/
theorem receive_of_wait {s : Session κ τ} {transport left : τ} {wait : Wait}
    (hp : s.phase = .active) (hr : s.closeRequested = false) (ht : s.transport? = some transport)
    (hw : FrameTransport.receive transport = (wait, left)) (subscriber : Subscriber η) (state : η) :
    ∃ closeRequested, s.receive subscriber state =
      (((s.afterWait wait left).conclude subscriber state wait.read).1,
        ((s.afterWait wait left).conclude subscriber state wait.read).2.1,
        { ((s.afterWait wait left).conclude subscriber state wait.read).2.2 with
          closeRequested }) := by
  rw [receive_of_open hp hr ht hw]
  exact noteRequests_eq subscriber wait _

/-- Without a stream there is nothing to wait for. -/
theorem receive_of_streamless {s : Session κ τ} (hp : s.phase = .active)
    (hr : s.closeRequested = false) (ht : s.transport? = none) (subscriber : Subscriber η)
    (state : η) : s.receive subscriber state = s.conclude subscriber state (.ok .closed) := by
  simp [receive, hp, hr, ht]

/-- A closed session tells so, as often as it is asked. -/
theorem receive_of_closed {s : Session κ τ} (hp : s.phase = .closed) (subscriber : Subscriber η)
    (state : η) : s.receive subscriber state = (.ok .closed, state, s) := by
  simp [receive, hp]

/-- In any other phase a receive is refused. -/
theorem receive_of_misused {s : Session κ τ} (ha : s.phase ≠ .active) (hc : s.phase ≠ .closed)
    (subscriber : Subscriber η) (state : η) :
    s.receive subscriber state = (.error (s.misuse "receive"), state, s) := by
  unfold receive
  split <;> simp_all

/-- A run on a session that is not open ends at once and leaves it as it is. -/
theorem run_of_not_open {s : Session κ τ} (ha : s.phase ≠ .active) (limit : Nat)
    (subscriber : Subscriber η) (state : η) :
    s.run (limit + 1) subscriber state =
      (some (if s.phase = .closed then .ok () else .error (s.misuse "receive")), state, s) := by
  by_cases hc : s.phase = .closed
  · simp [run, receive_of_closed hc, hc]
  · simp [run, receive_of_misused ha hc, ha, hc]

-- ---------------------------------------------------------------------------
-- Running
-- ---------------------------------------------------------------------------

/-- A run goes on with nothing but the journal changed, or returns what its first receive tells. -/
theorem run_cases (limit : Nat) (s : Session κ τ) (subscriber : Subscriber η) (state : η) :
    (∃ journal, s.run (limit + 1) subscriber state =
      run limit ((s.receive subscriber state).2.2.logged journal) subscriber
        (s.receive subscriber state).2.1) ∨
    s.run (limit + 1) subscriber state =
      (some ((s.receive subscriber state).1.map fun _ => ()), (s.receive subscriber state).2) := by
  obtain ⟨⟨outcome, state', next⟩, hr⟩ : ∃ r, s.receive subscriber state = r := ⟨_, rfl⟩
  match outcome with
  | .ok .closed => exact .inr (by simp [run, hr, Except.map])
  | .ok (.delivered _) => exact .inl ⟨next.client.journal, by simp [run, hr, logged]⟩
  | .ok .idle => exact .inl ⟨next.client.journal, by simp [run, hr, logged]⟩
  | .error e =>
    -- a frame that is rejected is skipped, any other error is returned
    by_cases he : e.isTerminal = false ∧ next.phase = .active
    · exact .inl ⟨(next.note .warn "skipping frame").client.journal, by
        simp [run, hr, he, note, Http.Client.note, logged]⟩
    · have hstops : (!e.isTerminal && next.phase = .active) = false := by
        simpa using he
      exact .inr (by simp only [run, hr, hstops, Except.map, Bool.false_eq_true, if_false])

/-- A run goes on after a receive that leaves the session open. -/
theorem run_of_staysOpen {s next : Session κ τ} {subscriber : Subscriber η} {state state' : η}
    {outcome : Except SessionError Received}
    (h : s.receive subscriber state = (outcome, state', next)) (ho : staysOpen outcome = true)
    (hp : next.phase = .active) :
    ∃ journal, ∀ limit, s.run (limit + 1) subscriber state =
      run limit (next.logged journal) subscriber state' := by
  match outcome with
  | .ok .closed => simp [staysOpen] at ho
  | .ok (.delivered _) => exact ⟨next.client.journal, fun limit => by simp [run, h, logged]⟩
  | .ok .idle => exact ⟨next.client.journal, fun limit => by simp [run, h, logged]⟩
  | .error (.frame e) =>
    exact ⟨(next.note .warn "skipping frame").client.journal,
      fun limit => by simp [run, h, hp, SessionError.isTerminal, note, Http.Client.note, logged]⟩

/-- A run ends well when a receive tells that the session is closed. -/
theorem run_of_closed {s next : Session κ τ} {subscriber : Subscriber η} {state state' : η}
    (h : s.receive subscriber state = (.ok .closed, state', next)) (limit : Nat) :
    s.run (limit + 1) subscriber state = (some (.ok ()), state', next) := by
  simp [run, h]

/-- A run ends with the failure of a wait. -/
theorem run_of_failed {s next : Session κ τ} {subscriber : Subscriber η} {state state' : η}
    {e : TransportError} (h : s.receive subscriber state = (.error (.transport e), state', next))
    (limit : Nat) :
    s.run (limit + 1) subscriber state = (some (.error (.transport e)), state', next) := by
  simp [run, h, SessionError.isTerminal]

end RobotWeb.Stream.Session
