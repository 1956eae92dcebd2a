import RobotWeb.Proofs.Session.Account

/-!
# Where a session stands

After any calls a session is untouched, has an open stream, or has a whole life behind it, and what
it holds and has done is what that says. Every call takes a standing to a standing, so the effects
of a session that is let go are always those of a life.

* `Session.Standing`           — the invariant.
* `Standing.perform`           — every call keeps it.
* `dropped_session_has_life`   — the effects of every session that is let go, in its trace and
  outside.
-/

namespace RobotWeb.Stream

namespace Session

variable {κ τ η : Type}

/-- The session has done nothing, and its client is still the given one. -/
structure Untouched (s : Session κ τ) (client : Http.Client) : Prop where
  phase : s.phase = .unopened
  client : s.client = client
  group : s.group? = none
  transport : s.transport? = none
  trace : s.trace = []

/-- The stream of the locator is open. -/
structure Open (s : Session κ τ) (form : String) (locator : Locator) (protocol : String)
    (talk : List Exchange) : Prop where
  phase : s.phase = .active
  group : s.group? = some locator.group
  transport : ∃ transport, s.transport? = some transport
  trace : s.trace = streaming form locator protocol talk

/-- The session has led a life and holds nothing any more. -/
structure Over (s : Session κ τ) (life : Life) : Prop where
  phase : s.phase.isFinished = true
  group : s.group? = none
  transport : s.transport? = none
  trace : s.trace = life.effects

/-- Where a session stands after calls that were replied to like this. -/
inductive Standing (client : Http.Client) (replies : List Reply) (s : Session κ τ) : Prop where
  | untouched (h : s.Untouched client) (quiet : Quiet replies)
  | streaming (form : String) (locator : Locator) (protocol : String) (talk : List Exchange)
      (h : s.Open form locator protocol talk) (located : Locates client locator)
      (quiet : Quiet replies)
  | ended (life : Life) (h : s.Over life) (fits : life.Fits client replies)

/-- A wait is one more exchange of an open stream. -/
theorem Open.afterWait {s : Session κ τ} {form : String} {locator : Locator} {protocol : String}
    {talk : List Exchange} (h : s.Open form locator protocol talk) (wait : Wait) (transport : τ) :
    (s.afterWait wait transport).Open form locator protocol (talk ++ [.wait]) :=
  ⟨h.phase, h.group, ⟨transport, rfl⟩, by
    rw [streaming_concat, ← h.trace]
    rfl⟩

/-- Replacing the resources of an open session is one more exchange, unless it is refused before
the controller is asked. -/
theorem Open.update {s : Session κ τ} {form : String} {locator : Locator} {protocol : String}
    {talk : List Exchange} (h : s.Open form locator protocol talk) (subscription : Subscription)
    (router : Router) :
    ∃ talk', (s.update subscription router).2.Open form locator protocol talk' := by
  by_cases he : subscription.isEmpty = true
  · simp only [Session.update, h.phase, he, ne_eq, not_true_eq_false, if_false, if_true]
    exact ⟨talk, h⟩
  · simp only [Session.update, h.phase, h.group, he, ne_eq, not_true_eq_false, if_false,
      Bool.false_eq_true]
    split
    · exact ⟨talk ++ [.replace subscription.encodeBody false], rfl, rfl, h.transport,
        by simp [record, streaming_concat, h.trace, Exchange.effect]⟩
    · exact ⟨talk ++ [.replace subscription.encodeBody true], rfl, rfl, h.transport,
        by simp [record, streaming_concat, h.trace, Exchange.effect]⟩

section Ending

variable [FrameTransport τ] {s : Session κ τ} {form : String} {locator : Locator}
  {protocol : String} {talk : List Exchange}

/-- An open stream that is shut down has led an orderly life. -/
theorem Open.shutDown (h : s.Open form locator protocol talk) :
    ∃ deleted closed,
      s.shutDown.Over (.streamed form locator protocol talk (.orderly deleted closed)) := by
  obtain ⟨transport, ht⟩ := h.transport
  obtain ⟨client, deleted, hs⟩ := shutDown_of_open h.group ht
  refine ⟨deleted, (FrameTransport.close transport).1.isOk, ?_⟩
  rw [hs]
  exact ⟨rfl, rfl, rfl, by simp [h.trace, Life.effects, Ending.effects]⟩

/-- One that fails is closed first and deletes its group then. -/
theorem Open.fail (h : s.Open form locator protocol talk) :
    ∃ closed deleted,
      s.fail.Over (.streamed form locator protocol talk (.failed closed deleted)) := by
  obtain ⟨transport, ht⟩ := h.transport
  obtain ⟨client, deleted, hs⟩ := fail_of_open h.group ht
  refine ⟨(FrameTransport.close transport).1.isOk, deleted, ?_⟩
  rw [hs]
  exact ⟨rfl, rfl, rfl, by simp [h.trace, Life.effects, Ending.effects]⟩

/-- One that is detached leaves its group, which the caller is told. -/
theorem Open.detach (h : s.Open form locator protocol talk) :
    s.detach.1 = some locator.group ∧
      ∃ closed, s.detach.2.Over (.streamed form locator protocol talk (.detached closed)) := by
  obtain ⟨transport, ht⟩ := h.transport
  simp only [Session.detach, h.phase, ne_eq, not_true_eq_false, if_false, closeStream_of_some ht]
  exact ⟨h.group, (FrameTransport.close transport).1.isOk, rfl, rfl, rfl,
    by simp [note, h.trace, Life.effects, Ending.effects]⟩

/-- Letting go of a session leaves it with a whole life behind it, and without a stream. -/
theorem Standing.drop {client : Http.Client} {replies : List Reply}
    (h : s.Standing client replies) :
    s.drop.transport? = none ∧
      ∃ life : Life, s.drop.trace = life.effects ∧ life.Fits client replies := by
  -- letting go of a session closes it if it is open, and else does nothing
  cases h with
  | untouched h quiet =>
    have hs : s.drop = s := by simp [Session.drop, h.phase]
    rw [hs]
    exact ⟨h.transport, .untouched, h.trace, quiet⟩
  | streaming form locator protocol talk h located quiet =>
    obtain ⟨deleted, closed, hover⟩ := h.shutDown
    have hs : s.drop = s.shutDown := by simp [Session.drop, Session.close, h.phase]
    rw [hs]
    exact ⟨hover.transport, .streamed form locator protocol talk (.orderly deleted closed),
      hover.trace, located, quiet⟩
  | ended life h fits =>
    have hp : s.phase ≠ .active := by
      intro hactive
      simpa [hactive, Phase.isFinished] using h.phase
    have hs : s.drop = s := by simp [Session.drop, hp]
    rw [hs]
    exact ⟨h.transport, life, h.trace, fits⟩

end Ending

section Receiving

variable [FrameTransport τ] {s next : Session κ τ} {form : String} {locator : Locator}
  {protocol : String} {talk : List Exchange} {subscriber : Subscriber η} {state state' : η}

/-- A receive leaves the session open, ends it in order, or fails it with its wait. -/
theorem Open.receive {outcome : Except SessionError Received}
    (h : s.Open form locator protocol talk)
    (hr : s.receive subscriber state = (outcome, state', next)) :
    (staysOpen outcome = true ∧ ∃ talk', next.Open form locator protocol talk') ∨
    (outcome = .ok .closed ∧ ∃ talk' deleted closed,
      next.Over (.streamed form locator protocol talk' (.orderly deleted closed))) ∨
    (∃ e, outcome = .error (.transport e) ∧ ∃ talk' closed deleted,
      next.Over (.streamed form locator protocol talk' (.failed closed deleted))) := by
  -- the flag is looked at before the wait; the wait then decides among the three
  cases hc : s.closeRequested with
  | true =>
    rw [receive_of_requested h.phase hc] at hr
    obtain ⟨rfl, -, rfl⟩ : _ ∧ _ ∧ _ := by simpa using hr
    exact .inr (.inl ⟨rfl, talk, h.shutDown⟩)
  | false =>
    obtain ⟨transport, ht⟩ := h.transport
    obtain ⟨⟨wait, left⟩, hread⟩ : ∃ r, FrameTransport.receive transport = r := ⟨_, rfl⟩
    have hw := h.afterWait wait left
    obtain ⟨closeRequested, hreceive⟩ := receive_of_wait h.phase hc ht hread subscriber state
    rw [hreceive] at hr
    obtain ⟨rfl, -, rfl⟩ : _ ∧ _ ∧ _ := by simpa using hr
    -- the request that was noted is no part of where a session stands
    rcases conclude_cases (s.afterWait wait left) subscriber state wait.read with
      ⟨journal, hs, ho⟩ | hs | ⟨e, -, hs⟩
    · refine .inl ⟨ho, talk ++ [.wait], ?_⟩
      rw [hs]
      exact ⟨hw.phase, hw.group, hw.transport, hw.trace⟩
    · obtain ⟨deleted, closed, hd⟩ := hw.shutDown
      rw [hs]
      exact .inr (.inl ⟨rfl, _, deleted, closed, hd.phase, hd.group, hd.transport, hd.trace⟩)
    · obtain ⟨closed, deleted, hd⟩ :=
        Open.fail (s := (s.afterWait wait left).note .error "event stream failed")
          ⟨hw.phase, hw.group, hw.transport, hw.trace⟩
      rw [hs]
      exact .inr (.inr ⟨e, rfl, _, closed, deleted, hd.phase, hd.group, hd.transport, hd.trace⟩)

/-- A run leaves the session open if it gives up, and otherwise ends it as its result says. -/
theorem Open.run {outcome : Option (Except SessionError Unit)} {limit : Nat}
    (h : s.Open form locator protocol talk)
    (hr : s.run limit subscriber state = (outcome, state', next)) :
    (outcome = none ∧ ∃ talk', next.Open form locator protocol talk') ∨
    (outcome = some (.ok ()) ∧ ∃ talk' deleted closed,
      next.Over (.streamed form locator protocol talk' (.orderly deleted closed))) ∨
    (∃ e, outcome = some (.error (.transport e)) ∧ ∃ talk' closed deleted,
      next.Over (.streamed form locator protocol talk' (.failed closed deleted))) := by
  -- over the turns, the last of which ends the session or uses the limit up
  induction limit generalizing s talk state with
  | zero =>
    obtain ⟨rfl, -, rfl⟩ : _ ∧ _ ∧ _ := by simpa [Session.run] using hr
    exact .inl ⟨rfl, talk, h⟩
  | succ limit ih =>
    obtain ⟨⟨received, stateR, middle⟩, hm⟩ : ∃ r, s.receive subscriber state = r := ⟨_, rfl⟩
    rcases h.receive hm with ⟨ho, talk', hopen⟩ | ⟨rfl, hover⟩ | ⟨e, rfl, hover⟩
    · obtain ⟨journal, hrun⟩ := run_of_staysOpen hm ho hopen.phase
      rw [hrun] at hr
      exact ih (s := middle.logged journal)
        ⟨hopen.phase, hopen.group, hopen.transport, hopen.trace⟩ hr
    · rw [run_of_closed hm] at hr
      obtain ⟨rfl, -, rfl⟩ : _ ∧ _ ∧ _ := by simpa using hr
      exact .inr (.inl ⟨rfl, hover⟩)
    · rw [run_of_failed hm] at hr
      obtain ⟨rfl, -, rfl⟩ : _ ∧ _ ∧ _ := by simpa using hr
      exact .inr (.inr ⟨e, rfl, hover⟩)

end Receiving

section Starting

variable [FrameTransport τ] [StreamConnector κ τ] {s : Session κ τ} {client : Http.Client}

/-- Connecting opens the stream of the group or ends the session with the group deleted. -/
theorem connectTo_cases (form : String) (locator : Locator) (hg : s.group? = some locator.group)
    (ht : s.transport? = none) (htrace : s.trace = [.subscribe form (some locator.group)]) :
    (s.connectTo locator).2.Open form locator s.options.protocol [] ∨
      ∃ deleted,
        (s.connectTo locator).2.Over (.unconnected form locator s.options.protocol deleted) := by
  unfold connectTo
  -- the stream is open, or the failed session deletes the group that it has created
  split
  · rename_i transport connector _
    exact .inl ⟨rfl, hg, ⟨transport, rfl⟩, by simp [note, record, htrace, streaming]⟩
  · rename_i e connector _
    obtain ⟨client, deleted, hf⟩ := fail_of_unconnected (s := ({ s with connector }.record
      (.connect locator s.options.protocol false)).note .warn "failed to open event stream") hg ht
    refine .inr ⟨deleted, ?_⟩
    dsimp only
    rw [hf]
    exact ⟨rfl, rfl, ht, by simp [note, record, htrace, Life.effects]⟩

/-- Starting leaves the session untouched, opens a stream, or ends the session early. -/
theorem Untouched.start (h : s.Untouched client) (subscription : Subscription) :
    (s.start subscription).2.Untouched client ∨
    (∃ form locator protocol, (s.start subscription).2.Open form locator protocol [] ∧
      Locates client locator) ∨
    ∃ life, (s.start subscription).2.Over life ∧
      ∀ replies, Quiet replies → life.Fits client replies := by
  -- one check and three requests, each of which may be the last
  by_cases he : subscription.isEmpty = true
  · simp only [Session.start, h.phase, he, ne_eq, not_true_eq_false, if_false, if_true]
    exact .inl h
  · simp only [Session.start, h.phase, he, h.client, ne_eq, not_true_eq_false, if_false,
      Bool.false_eq_true]
    split
    · -- no group was created
      refine .inr (.inr ⟨.refused subscription.encodeBody, ?_, fun _ quiet => quiet⟩)
      exact ⟨rfl, h.group, h.transport, by simp [note, record, h.trace, Life.effects]⟩
    · rename_i group after hsub
      have hid := Http.Client.subscribe_eq_ok hsub
      have hurl : after.streamUrl group.location = client.streamUrl group.location :=
        Http.Client.streamUrl_of_options
          (by simpa [hsub] using Http.Client.options_subscribe client subscription.encodeBody) _
      split
      · -- the group has no stream
        rename_i e hlocation
        obtain ⟨last, deleted, hf⟩ := fail_of_unconnected (s := ({ s with
          client := after, phase := .requesting, group? := some group.id }.record
            (.subscribe subscription.encodeBody (some group.id))).note .warn
              "no stream location for group") rfl h.transport
        refine .inr (.inr ⟨.unlocated subscription.encodeBody group deleted, ?_,
          fun _ quiet => ⟨⟨hid, e, hurl ▸ hlocation⟩, quiet⟩⟩)
        rw [hf]
        exact ⟨rfl, rfl, h.transport, by simp [note, record, h.trace, Life.effects]⟩
      -- the stream is opened, or its group is deleted again
      · rename_i url hlocation
        have hlocates : Locates client ⟨group.id, url⟩ :=
          ⟨group.location, hid, hurl ▸ hlocation⟩
        rcases connectTo_cases (s := { s with
            client := after, phase := .requesting, group? := some group.id }.record
              (.subscribe subscription.encodeBody (some group.id)))
          subscription.encodeBody ⟨group.id, url⟩ rfl h.transport
          (by simp [record, h.trace]) with hopen | ⟨deleted, hover⟩
        · exact .inr (.inl ⟨_, _, _, hopen, hlocates⟩)
        · exact .inr (.inr ⟨_, hover, fun _ quiet => ⟨hlocates, quiet⟩⟩)

end Starting

-- ---------------------------------------------------------------------------
-- Every call keeps the standing
-- ---------------------------------------------------------------------------

variable [FrameTransport τ] [StreamConnector κ τ] {s : Session κ τ} {client : Http.Client}
  {replies : List Reply}

/-- Without an open stream, calls that need one change nothing and report no ending. -/
theorem perform_of_not_active (ha : s.phase ≠ .active) (call : Call)
    (hcall : call.needsStream = true) :
    (s.perform call).2 = s ∧ (s.perform call).1.IsQuiet := by
  cases call with
  | start | close | requestClose => simp [Call.needsStream] at hcall
  | receive subscriber state =>
    by_cases hc : s.phase = .closed
    · simp [Session.perform, receive_of_closed hc, Reply.IsQuiet, Reply.abandoned?,
        Reply.tellsFailedWait]
    · simp [Session.perform, receive_of_misused ha hc, misuse, Reply.IsQuiet, Reply.abandoned?,
        Reply.tellsFailedWait]
  | run limit subscriber state =>
    -- a run of no turns does not get as far as the check of the phase
    cases limit with
    | zero => simp [Session.perform, Session.run, Reply.IsQuiet, Reply.abandoned?,
        Reply.tellsFailedWait]
    | succ limit =>
      by_cases hc : s.phase = .closed <;>
        simp [Session.perform, run_of_not_open ha, hc, misuse, Reply.IsQuiet, Reply.abandoned?,
          Reply.tellsFailedWait]
  | update subscription router =>
    simp [Session.perform, Session.update, ha, Reply.IsQuiet, Reply.abandoned?,
      Reply.tellsFailedWait]
  | detach =>
    simp [Session.perform, Session.detach, ha, Reply.IsQuiet, Reply.abandoned?,
      Reply.tellsFailedWait]

/-- A session that has not been opened stays so, opens its stream, or ends. -/
theorem Untouched.perform (h : s.Untouched client) (quiet : Quiet replies) (call : Call) :
    (s.perform call).2.Standing client (replies ++ [(s.perform call).1]) := by
  by_cases hcall : call.needsStream = true
  · obtain ⟨hs, hq⟩ := perform_of_not_active (s := s) (by simp [h.phase]) call hcall
    rw [hs]
    exact .untouched h (quiet.append hq)
  -- of the calls that need no stream only an opening and a close change the phase
  cases call with
  | start subscription =>
    have hquiet : Quiet (replies ++ [.started (s.start subscription).1]) :=
      quiet.append ⟨rfl, rfl⟩
    rcases h.start subscription with hu | ⟨form, locator, protocol, ho, hl⟩ | ⟨life, ho, hf⟩
    · exact .untouched hu hquiet
    · exact .streaming form locator protocol [] ho hl hquiet
    · exact .ended life ho (hf _ hquiet)
  | close =>
    refine .ended .untouched ?_ (quiet.append ⟨rfl, rfl⟩)
    simp only [Session.perform, Session.close, h.phase]
    exact ⟨rfl, h.group, h.transport, h.trace⟩
  | requestClose =>
    exact .untouched ⟨h.phase, h.client, h.group, h.transport, h.trace⟩ (quiet.append ⟨rfl, rfl⟩)
  | receive | run | update | detach => exact absurd rfl hcall

/-- A life that is over goes on being that life. -/
theorem Over.perform {life : Life} (h : s.Over life) (call : Call) :
    (s.perform call).2.Over life ∧ (s.perform call).1.IsQuiet := by
  have hp := h.phase
  have ha : s.phase ≠ .active := by
    intro hactive
    simp [hactive, Phase.isFinished] at hp
  have hu : s.phase ≠ .unopened := by
    intro hunopened
    simp [hunopened, Phase.isFinished] at hp
  by_cases hcall : call.needsStream = true
  · obtain ⟨hs, hq⟩ := perform_of_not_active ha call hcall
    rw [hs]
    exact ⟨h, hq⟩
  -- an opening is refused, a close finds nothing to do, and a request is only noted
  cases call with
  | start subscription =>
    simp only [Session.perform, Session.start, if_pos hu]
    exact ⟨h, rfl, rfl⟩
  | close =>
    simp only [Session.perform, close_of_neither hu ha]
    exact ⟨h, rfl, rfl⟩
  | requestClose => exact ⟨⟨h.phase, h.group, h.transport, h.trace⟩, rfl, rfl⟩
  | receive | run | update | detach => exact absurd rfl hcall

/-- A session with an open stream keeps it, or ends as its reply says. -/
theorem Open.perform {form : String} {locator : Locator} {protocol : String} {talk : List Exchange}
    (h : s.Open form locator protocol talk) (located : Locates client locator)
    (quiet : Quiet replies) (call : Call) :
    (s.perform call).2.Standing client (replies ++ [(s.perform call).1]) := by
  have habandoned := quiet.1
  have hfailed := quiet.2
  -- what ends the session is told by the reply: by a verdict, or by a group that is left behind
  cases call with
  | start subscription =>
    simp only [Session.perform, Session.start, h.phase, ne_eq, reduceCtorEq, not_false_eq_true,
      if_true]
    exact .streaming form locator protocol talk h located (quiet.append ⟨rfl, rfl⟩)
  | receive subscriber state =>
    obtain ⟨⟨outcome, state', next⟩, hr⟩ : ∃ r, s.receive subscriber state = r := ⟨_, rfl⟩
    simp only [Session.perform, hr]
    rcases h.receive hr with ⟨ho, talk', hopen⟩ | ⟨rfl, talk', deleted, closed, hover⟩ |
      ⟨e, rfl, talk', closed, deleted, hover⟩
    · refine .streaming form locator protocol talk' hopen located (quiet.append ⟨rfl, ?_⟩)
      cases outcome with
      | ok => rfl
      | error e => cases e <;> first | rfl | cases ho
    · exact .ended _ hover ⟨located, quiet.append ⟨rfl, rfl⟩⟩
    · exact .ended _ hover ⟨located, by simp [abandoned_append, habandoned, Reply.abandoned?],
        by simp [failedWaits_append, hfailed, Reply.tellsFailedWait]⟩
  | run limit subscriber state =>
    obtain ⟨⟨outcome, state', next⟩, hr⟩ : ∃ r, s.run limit subscriber state = r := ⟨_, rfl⟩
    simp only [Session.perform, hr]
    rcases h.run hr with ⟨rfl, talk', hopen⟩ | ⟨rfl, talk', deleted, closed, hover⟩ |
      ⟨e, rfl, talk', closed, deleted, hover⟩
    · exact .streaming form locator protocol talk' hopen located (quiet.append ⟨rfl, rfl⟩)
    · exact .ended _ hover ⟨located, quiet.append ⟨rfl, rfl⟩⟩
    · exact .ended _ hover ⟨located, by simp [abandoned_append, habandoned, Reply.abandoned?],
        by simp [failedWaits_append, hfailed, Reply.tellsFailedWait]⟩
  | update subscription router =>
    obtain ⟨talk', hopen⟩ := h.update subscription router
    exact .streaming form locator protocol talk' hopen located (quiet.append ⟨rfl, rfl⟩)
  | close =>
    obtain ⟨deleted, closed, hover⟩ := h.shutDown
    simp only [Session.perform, Session.close, h.phase]
    exact .ended _ hover ⟨located, quiet.append ⟨rfl, rfl⟩⟩
  | detach =>
    obtain ⟨hd, closed, hover⟩ := h.detach
    refine .ended _ hover ⟨located, ?_⟩
    exact ⟨by simp [Session.perform, abandoned_append, habandoned, Reply.abandoned?, hd],
      by simp [Session.perform, failedWaits_append, hfailed, Reply.tellsFailedWait]⟩
  | requestClose =>
    exact .streaming form locator protocol talk ⟨h.phase, h.group, h.transport, h.trace⟩ located
      (quiet.append ⟨rfl, rfl⟩)

/-- Every call keeps the invariant: by cases on where the session stands, since each case has calls
of its own that count. -/
theorem Standing.perform (h : s.Standing client replies) (call : Call) :
    (s.perform call).2.Standing client (replies ++ [(s.perform call).1]) := by
  cases h with
  | untouched h quiet => exact h.perform quiet call
  | streaming form locator protocol talk h located quiet => exact h.perform located quiet call
  | ended life h fits =>
    obtain ⟨hover, hquiet⟩ := h.perform call
    exact .ended life hover (fits.append hquiet)

/-- A session stands somewhere after any calls. -/
theorem standing_performAll (client : Http.Client) (router : Router) (connector : κ)
    (options : Options) (calls : List Call) :
    ((create client router connector options : Session κ τ).performAll calls).2.Standing client
      ((create client router connector options : Session κ τ).performAll calls).1 := by
  have hfresh : (create client router connector options : Session κ τ).Standing client [] :=
    .untouched ⟨rfl, rfl, rfl, rfl, rfl⟩ ⟨rfl, rfl⟩
  simpa using performAll_keeps (P := fun replies s => s.Standing client replies)
    (fun _ _ call h => h.perform call) calls hfresh

end Session

/-- **A session that is let go has led a life.** Whatever calls were made on it and whatever the
outside answered, its effects are those of one of the five courses, which is the one that the
replies tell of. So every group that it created was deleted once, or else left to its holder, every
stream that it opened was closed once, and no effect was about another group than the one created.

All this is read off the trace, and the trace is what took place outside, entry by entry: a deletion
is a request with its exchanges, the closing of a stream is a use of the stream that was held, and
each tells its outcome. So the requests on the wire delete the same groups as the trace does and no
other ones, and no stream is left open. -/
theorem dropped_session_has_life {κ τ : Type} [FrameTransport τ] [StreamConnector κ τ]
    (client : Http.Client) (router : Router) (connector : κ) (options : Options)
    (calls : List Call) :
    let after := (Session.create client router connector options : Session κ τ).performAll calls
    let dropped := after.2.drop
    let trace := dropped.trace
    (∃ life : Life, trace = life.effects ∧ life.Fits client after.1) ∧
    (trace.filterMap Effect.createdGroup?).length ≤ 1 ∧
    trace.filterMap Effect.deletedGroup? ++ abandoned after.1 =
      trace.filterMap Effect.createdGroup? ∧
    (trace.filter Effect.closesStream).length = (trace.filter Effect.opensStream).length ∧
    (∀ effect ∈ trace, ∀ group, effect.addressedGroup? = some group →
      group ∈ trace.filterMap Effect.createdGroup?) ∧
    Outside.DoesAll client.options options ⟨client.network, connector, none, []⟩ trace
      dropped.outside ∧
    dropped.transport? = none ∧
    dropped.released.length = (trace.filter Effect.opensStream).length ∧
    ∃ sent, dropped.client.network.requests = client.network.requests ++ sent ∧
      Outside.Deletes client.options (trace.filterMap Effect.deletedGroup?) sent := by
  intro after dropped trace
  -- the calls lead to one of the standings, and letting go ends each of them with a life
  obtain ⟨hclosed, life, htrace, hfits⟩ :=
    (Session.standing_performAll (τ := τ) client router connector options calls).drop
  have heffects : trace = life.effects := htrace
  -- what the calls did outside, and the drop after them, is what the trace tells
  have hdone : Outside.DoesAll client.options options ⟨client.network, connector, none, []⟩ trace
      dropped.outside := by
    have haccounted : (Session.create client router connector options : Session κ τ).Accounted
        dropped :=
      (Session.performAll_accounted _ calls).trans after.2.drop_accounted
    obtain ⟨effects, hall, hdone⟩ := haccounted.effects
    rwa [show trace = effects from hall]
  have hreleased : dropped.released.length = (trace.filter Effect.closesStream).length := by
    simpa [Session.outside] using hdone.released_length
  have hdeleted (group : String) (hgroup : group ∈ trace.filterMap Effect.deletedGroup?) :
      group ∈ trace.filterMap Effect.createdGroup? := by
    rw [heffects] at hgroup ⊢
    rw [← hfits.deleted_append_abandoned]
    exact List.mem_append_left _ hgroup
  -- what is deleted was created, and where one group was created all have URLs
  have hurl (group : String) (hgroup : group ∈ trace.filterMap Effect.deletedGroup?) :
      ∃ url, client.options.baseUrl.join (Http.Client.groupPath group) = .ok url := by
    obtain ⟨url, hjoined⟩ := hdone.join_of_created (hdeleted group hgroup)
    exact Http.Client.join_groupPath hjoined group
  refine ⟨⟨life, heffects, hfits⟩, ?_, ?_, ?_, ?_, hdone, hclosed, ?_, hdone.deletes hurl⟩
  · rw [heffects]
    exact life.createdGroups_length
  · rw [heffects]
    exact hfits.deleted_append_abandoned
  · rw [heffects]
    exact life.closed_eq_opened
  · rw [heffects]
    exact fun _ h _ hgroup => Life.addressed_mem_created h hgroup
  · rw [hreleased, heffects]
    exact life.closed_eq_opened

end RobotWeb.Stream
