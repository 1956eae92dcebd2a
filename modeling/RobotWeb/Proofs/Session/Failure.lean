import RobotWeb.Proofs.Session.Running

/-!
# Failed calls on a session

A call that fails either ends the session, and its failure says so, or it leaves the session as it
was: the failure alone tells the caller whether to go on. This holds of every session, whether calls
lead to it or not.

* `start_cases`, `update_cases`      — what starting and replacing resources can lead to.
* `receive_of_error`, `run_of_error` — what a receive or a run that fails has done.
* `Session.Failed`                   — the two ways in which a call can fail.
* `failure_tells_end`                — a call that fails has failed in the way its failure tells.
-/

namespace RobotWeb.Stream

/-- A request that fails is never the fault of a value that the caller gave. -/
theorem SessionError.isTerminal_ofHttp (e : HttpError) :
    (SessionError.ofHttp e).isTerminal = true := by
  cases e <;> rfl

/-- The failure that a reply tells of. -/
def Reply.failure? : Reply → Option SessionError
  | started (.error e) | received (.error e) | ran (some (.error e)) | updated (.error e) => some e
  | _ => none

/-- A stream after some waits. -/
def afterWaits {τ : Type} [FrameTransport τ] (transport : τ) : Nat → τ
  | 0 => transport
  | waits + 1 => afterWaits (FrameTransport.receive transport).2 waits

namespace Session

variable {κ τ η : Type}

/-- The session holds what it held before, and nothing was deleted or closed. It may have waited on
its stream, and it may have asked for other resources in vain. -/
structure LeftAs [FrameTransport τ] (s s' : Session κ τ) : Prop where
  phase : s'.phase = s.phase
  group : s'.group? = s.group?
  router : s'.router = s.router
  outside : ∃ added, s'.trace = s.trace ++ added ∧
    (∀ effect ∈ added, effect.deletedGroup? = none ∧ effect.closesStream = false) ∧
    s'.transport? = s.transport?.map (afterWaits · (added.count .receive))

/-- A call that failed has ended the session, or has left it as it was. -/
inductive Failed [FrameTransport τ] (s s' : Session κ τ) (e : SessionError) : Prop where
  | ended (terminal : e.isTerminal = true) (before : s.phase.isFinished = false)
      (after : s'.phase = .failed)
  | left (harmless : e.isTerminal = false) (same : LeftAs s s')

-- ---------------------------------------------------------------------------
-- Replacing resources
-- ---------------------------------------------------------------------------

/-- Replacing resources is refused without a change, it is refused by the controller, or it
succeeds. -/
theorem update_cases (s : Session κ τ) (subscription : Subscription) (router : Router) :
    (∃ e, e.isTerminal = false ∧ s.update subscription router = (.error e, s)) ∨
    (∃ e client group form, e.isTerminal = false ∧ s.update subscription router =
      (.error e, { s with client, trace := s.trace ++ [.update group form false] })) ∨
    (s.update subscription router).1 = .ok () := by
  by_cases hp : s.phase = .active
  · by_cases he : subscription.isEmpty = true
    · exact .inl ⟨.api (.validation (.missing "resources")), rfl, by simp [update, hp, he]⟩
    · simp only [update, hp, he, ne_eq, not_true_eq_false, if_false, Bool.false_eq_true]
      cases hg : s.group? with
      | none => exact .inr (.inr rfl)
      | some group =>
        dsimp only
        split
        · exact .inr (.inl ⟨_, _, group, _, rfl, rfl⟩)
        · exact .inr (.inr rfl)
  · exact .inl ⟨s.misuse "update", rfl, by simp [update, hp]⟩

variable [FrameTransport τ]

theorem LeftAs.refl (s : Session κ τ) : s.LeftAs s :=
  ⟨rfl, rfl, rfl, [], by simp, by simp, by simp [afterWaits]⟩

/-- A failure that comes with a phase that is not the failed one, or with no change, is told apart
by its kind. -/
theorem Failed.isTerminal_iff {s s' : Session κ τ} {e : SessionError} (h : Failed s s' e) :
    e.isTerminal = true ↔ s.phase.isFinished = false ∧ s'.phase = .failed := by
  cases h with
  | ended terminal before after => exact ⟨fun _ => ⟨before, after⟩, fun _ => terminal⟩
  | left harmless same =>
    refine ⟨fun terminal => by simp [harmless] at terminal, fun ⟨before, after⟩ => ?_⟩
    rw [same.phase] at after
    simp [after, Phase.isFinished] at before

/-- A failure that is not terminal leaves the session as it was. -/
theorem Failed.leftAs {s s' : Session κ τ} {e : SessionError} (h : Failed s s' e)
    (harmless : e.isTerminal = false) : LeftAs s s' := by
  cases h with
  | ended terminal => simp [harmless] at terminal
  | left _ same => exact same

/-- A failed update is never terminal. -/
theorem update_failed {s : Session κ τ} {subscription : Subscription} {router : Router}
    {e : SessionError} (h : (s.update subscription router).1 = .error e) :
    Failed s (s.update subscription router).2 e := by
  -- refused at once, failed after its request, or no failure
  rcases update_cases s subscription router with ⟨cause, harmless, hu⟩ |
    ⟨cause, client, group, form, harmless, hu⟩ | hok
  · rw [hu] at h ⊢
    obtain rfl := Except.error.inj h
    exact .left harmless (.refl s)
  · rw [hu] at h ⊢
    obtain rfl := Except.error.inj h
    refine .left harmless ⟨rfl, rfl, rfl, [.update group form false], rfl, ?_, ?_⟩
    · intro effect heffect
      obtain rfl := List.mem_singleton.mp heffect
      exact ⟨rfl, rfl⟩
    · simp [afterWaits]
  · rw [hok] at h
    cases h

-- ---------------------------------------------------------------------------
-- Starting
-- ---------------------------------------------------------------------------

section Starting

variable [StreamConnector κ τ]

/-- Opening the stream fails the session or makes it active. -/
theorem connectTo_outcome (s : Session κ τ) (locator : Locator) :
    (∃ e, (s.connectTo locator).1 = .error (.transport e) ∧
      (s.connectTo locator).2.phase = .failed) ∨
    ((s.connectTo locator).1 = .ok () ∧ (s.connectTo locator).2.phase = .active) := by
  unfold connectTo
  split
  · exact .inr ⟨rfl, rfl⟩
  · rename_i e _ _
    exact .inl ⟨e, rfl, rfl⟩

/-- Starting is refused without a change, or it takes a session that was not opened to its end or
to an open stream. -/
theorem start_cases (s : Session κ τ) (subscription : Subscription) :
    ((s.phase ≠ .unopened ∨ subscription.isEmpty = true) ∧
      ∃ e, e.isTerminal = false ∧ s.start subscription = (.error e, s)) ∨
    (s.phase = .unopened ∧ subscription.isEmpty = false ∧
      ((∃ e, (s.start subscription).1 = .error e ∧ e.isTerminal = true ∧
          (s.start subscription).2.phase = .failed) ∨
        ((s.start subscription).1 = .ok () ∧ (s.start subscription).2.phase = .active))) := by
  by_cases hp : s.phase = .unopened
  · by_cases he : subscription.isEmpty = true
    · exact .inl ⟨.inr he, .api (.validation (.missing "resources")), rfl, by simp [start, hp, he]⟩
    · refine .inr ⟨hp, by simpa using he, ?_⟩
      -- three requests, each of which may fail the session
      simp only [start, hp, he, ne_eq, not_true_eq_false, if_false, Bool.false_eq_true]
      split
      · exact .inl ⟨_, rfl, SessionError.isTerminal_ofHttp _, rfl⟩
      · split
        · exact .inl ⟨_, rfl, SessionError.isTerminal_ofHttp _, rfl⟩
        · rcases connectTo_outcome (κ := κ) (τ := τ) _ _ with ⟨e, ho, hphase⟩ | hopened
          · exact .inl ⟨_, ho, rfl, hphase⟩
          · exact .inr hopened
  · exact .inl ⟨.inl hp, s.misuse "open", rfl, by simp [start, hp]⟩

/-- An opening that fails has failed the session, unless it was refused before anything was done. -/
theorem start_failed {s : Session κ τ} {subscription : Subscription} {e : SessionError}
    (h : (s.start subscription).1 = .error e) : Failed s (s.start subscription).2 e := by
  rcases start_cases s subscription with ⟨-, cause, harmless, hs⟩ |
    ⟨hp, -, ⟨cause, hs, terminal, hphase⟩ | ⟨hok, -⟩⟩
  · rw [hs] at h ⊢
    obtain rfl := Except.error.inj h
    exact .left harmless (.refl s)
  · rw [hs] at h
    obtain rfl := Except.error.inj h
    exact .ended terminal (by simp [hp, Phase.isFinished]) hphase
  · rw [hok] at h
    cases h

end Starting

-- ---------------------------------------------------------------------------
-- Receiving
-- ---------------------------------------------------------------------------

section Subscribers

variable {η' : Type} (s : Session κ τ) (subscriber : Subscriber η) (state : η)
  (subscriber' : Subscriber η') (state' : η')

/-- What is told of a frame does not depend on the subscriber. -/
theorem deliver_fst (frame : Frame) :
    (s.deliver subscriber state frame).1 = (s.deliver subscriber' state' frame).1 := by
  unfold deliver
  split
  · rfl
  · split
    · rfl
    · cases ParsedFrame.parse frame.content with
      | error e => rfl
      | ok parsed =>
        have hfst := s.router.deliverFrame_fst subscriber.handle state subscriber'.handle state'
          parsed
        obtain ⟨⟨outcome, after⟩, hr⟩ :
            ∃ r, s.router.deliverFrame subscriber.handle state parsed = r := ⟨_, rfl⟩
        obtain ⟨⟨outcome', after'⟩, hr'⟩ :
            ∃ r, s.router.deliverFrame subscriber'.handle state' parsed = r := ⟨_, rfl⟩
        rw [hr, hr'] at hfst
        obtain rfl : outcome = outcome' := hfst
        simp only [hr, hr']
        cases outcome <;> rfl

/-- Neither does what is told of a read. -/
theorem conclude_fst (read : Except TransportError FrameRead) :
    (s.conclude subscriber state read).1 = (s.conclude subscriber' state' read).1 := by
  match read with
  | .ok (.frame frame) => exact s.deliver_fst subscriber state subscriber' state' frame
  | .ok .idle =>
    simp only [conclude]
    split <;> rfl
  | .ok .closed => rfl
  | .error e => rfl

/-- What a receive tells does not depend on who subscribes. -/
theorem receive_fst : (s.receive subscriber state).1 = (s.receive subscriber' state').1 := by
  unfold receive
  split
  · rfl
  · split
    · rfl
    · split
      · exact s.conclude_fst subscriber state subscriber' state' _
      · exact conclude_fst _ subscriber state subscriber' state' _
  · rfl

end Subscribers

/-- A frame that is rejected changes nothing but the journal and reaches no subscriber. -/
theorem deliver_of_error {s : Session κ τ} {subscriber : Subscriber η} {state : η} {frame : Frame}
    {e : SessionError} (h : (s.deliver subscriber state frame).1 = .error e) :
    ∃ cause client, e = .frame cause ∧
      s.deliver subscriber state frame = (.error e, state, { s with client }) := by
  unfold deliver at h ⊢
  split at h
  · cases h
  · split at h
    · cases h
    · rename_i hclose hdata
      rw [if_neg hclose, if_neg hdata]
      -- a frame that is no page, or one that has an event with something missing
      cases hp : ParsedFrame.parse frame.content with
      | error cause =>
        rw [hp] at h
        obtain rfl := Except.error.inj h
        exact ⟨cause, _, rfl, rfl⟩
      | ok parsed =>
        rw [hp] at h
        cases hr : (s.router.deliverFrame subscriber.handle state parsed).1 with
        | error cause =>
          simp only [Router.deliverFrame_of_error hr] at h ⊢
          obtain rfl := Except.error.inj h
          exact ⟨cause, _, rfl, rfl⟩
        | ok count =>
          dsimp only at h
          split at h <;> simp_all

/-- A read that leads to a failure was a frame that is rejected, or the wait has failed. -/
theorem conclude_of_error {s : Session κ τ} {subscriber : Subscriber η} {state : η} {read}
    {e : SessionError} (h : (s.conclude subscriber state read).1 = .error e) :
    (∃ cause client, e = .frame cause ∧
      s.conclude subscriber state read = (.error e, state, { s with client })) ∨
    ∃ cause, e = .transport cause ∧
      (s.conclude subscriber state read).2.2.phase = .failed := by
  match read with
  | .ok (.frame frame) => exact .inl (deliver_of_error h)
  | .ok .idle =>
    rw [conclude] at h
    split at h <;> cases h
  | .ok .closed => cases h
  | .error cause =>
    obtain rfl := Except.error.inj h
    exact .inr ⟨cause, rfl, rfl⟩

/-- A receive that fails is a misuse, or its frame was rejected, or its wait failed. -/
theorem receive_of_error {s : Session κ τ} {subscriber : Subscriber η} {state : η}
    {e : SessionError} (h : (s.receive subscriber state).1 = .error e) :
    (s.phase ≠ .active ∧ e = s.misuse "receive" ∧
      s.receive subscriber state = (.error e, state, s)) ∨
    (s.phase = .active ∧ ∃ transport, s.transport? = some transport ∧
      ((∃ cause client closeRequested, e = .frame cause ∧ s.receive subscriber state =
          (.error e, state, { s with
            client, closeRequested, transport? := some (afterWaits transport 1)
            trace := s.trace ++ [.receive] })) ∨
        ∃ cause, e = .transport cause ∧
          (s.receive subscriber state).2.2.phase = .failed)) := by
  -- on an open session only a read fails; without one only the phase is at fault
  by_cases ha : s.phase = .active
  · refine .inr ⟨ha, ?_⟩
    cases hc : s.closeRequested with
    | true =>
      rw [receive_of_requested ha hc] at h
      cases h
    | false =>
      cases ht : s.transport? with
      | none => simp [receive, ha, hc, ht, conclude] at h
      | some transport =>
        obtain ⟨⟨wait, left⟩, hread⟩ : ∃ r, FrameTransport.receive transport = r := ⟨_, rfl⟩
        have hleft : afterWaits transport 1 = left := by simp [afterWaits, hread]
        obtain ⟨closeRequested, hreceive⟩ := receive_of_wait ha hc ht hread subscriber state
        rw [hreceive] at h ⊢
        refine ⟨transport, rfl, ?_⟩
        rcases conclude_of_error h with ⟨cause, client, rfl, hs⟩ | ⟨cause, rfl, hphase⟩
        · rw [hs, hleft]
          exact .inl ⟨cause, client, closeRequested, rfl, rfl⟩
        · exact .inr ⟨cause, rfl, hphase⟩
  · by_cases hclosed : s.phase = .closed
    · rw [receive_of_closed hclosed] at h
      cases h
    · rw [receive_of_misused ha hclosed] at h
      obtain rfl := Except.error.inj h
      exact .inl ⟨ha, rfl, receive_of_misused ha hclosed subscriber state⟩

/-- A frame whose page is malformed is rejected. -/
theorem receive_of_malformed {s : Session κ τ} {subscriber : Subscriber η} {state : η}
    {transport left : τ} {frame : Frame} {cause : ProtocolError} {asked later : Bool}
    (ha : s.phase = .active) (hc : s.closeRequested = false) (ht : s.transport? = some transport)
    (hw : FrameTransport.receive transport = (⟨.ok (.frame frame), asked, later⟩, left))
    (hdata : frame.opcode.isData = true)
    (hpage : ParsedFrame.parse frame.content = .error cause) :
    (s.receive subscriber state).1 = .error (.frame cause) := by
  obtain ⟨closeRequested, hreceive⟩ := receive_of_wait ha hc ht hw subscriber state
  have hclose : frame.opcode ≠ .close := fun hclose => by simp [hclose, Opcode.isData] at hdata
  rw [hreceive]
  simp only [conclude, deliver, hclose, hdata, hpage, if_false, Bool.not_true, Bool.false_eq_true,
    reject]

/-- A receive that fails has failed the session, or has rejected a frame and handed over nothing. -/
theorem receive_failed {s : Session κ τ} {subscriber : Subscriber η} {state : η}
    {e : SessionError} (h : (s.receive subscriber state).1 = .error e) :
    Failed s (s.receive subscriber state).2.2 e ∧
      (e.isTerminal = false → (s.receive subscriber state).2.1 = state) := by
  rcases receive_of_error h with ⟨-, rfl, hr⟩ | ⟨ha, transport, ht,
    ⟨cause, client, closeRequested, rfl, hr⟩ | ⟨cause, rfl, hphase⟩⟩
  · rw [hr]
    exact ⟨.left rfl (.refl s), fun _ => rfl⟩
  · rw [hr]
    refine ⟨.left rfl ⟨rfl, rfl, rfl, [.receive], rfl, ?_, ?_⟩, fun _ => rfl⟩
    · intro effect heffect
      obtain rfl := List.mem_singleton.mp heffect
      exact ⟨rfl, rfl⟩
    · simp [ht]
  · exact ⟨.ended rfl (by simp [ha, Phase.isFinished]) hphase, fun harmless => by cases harmless⟩

-- ---------------------------------------------------------------------------
-- Running
-- ---------------------------------------------------------------------------

/-- A receive on an open session that does not end it leaves it open. -/
theorem phase_receive_of_staysOpen {s : Session κ τ} {subscriber : Subscriber η} {state : η}
    (ha : s.phase = .active) (ho : staysOpen (s.receive subscriber state).1 = true) :
    (s.receive subscriber state).2.2.phase = .active := by
  cases hc : s.closeRequested with
  | true =>
    rw [receive_of_requested ha hc] at ho
    cases ho
  | false =>
    cases ht : s.transport? with
    | none => simp [receive, ha, hc, ht, conclude, staysOpen] at ho
    | some transport =>
      obtain ⟨⟨wait, left⟩, hread⟩ : ∃ r, FrameTransport.receive transport = r := ⟨_, rfl⟩
      obtain ⟨closeRequested, hreceive⟩ := receive_of_wait ha hc ht hread subscriber state
      rw [hreceive] at ho ⊢
      -- what ends the session has an outcome that says so
      rcases conclude_cases (s.afterWait wait left) subscriber state wait.read with
        ⟨journal, hs, -⟩ | hs | ⟨e, -, hs⟩
      · rw [hs]
        exact ha
      · rw [hs] at ho
        cases ho
      · rw [hs] at ho
        cases ho

/-- A run on an open session fails only with a wait, and fails the session. -/
theorem run_of_error {s : Session κ τ} {subscriber : Subscriber η} {state : η} {limit : Nat}
    {e : SessionError} (ha : s.phase = .active)
    (h : (s.run limit subscriber state).1 = some (.error e)) :
    e.isTerminal = true ∧ (s.run limit subscriber state).2.2.phase = .failed := by
  -- turns that leave the session open come first, and the last turn has failed
  induction limit generalizing s state with
  | zero => cases h
  | succ limit ih =>
    obtain ⟨⟨outcome, state', next⟩, hr⟩ : ∃ r, s.receive subscriber state = r := ⟨_, rfl⟩
    by_cases ho : staysOpen outcome = true
    · have hopen : staysOpen (s.receive subscriber state).1 = true := by rwa [hr]
      have hnext : next.phase = .active := by
        have hphase := phase_receive_of_staysOpen ha hopen
        rwa [hr] at hphase
      obtain ⟨journal, hrun⟩ := run_of_staysOpen hr ho hnext
      rw [hrun] at h ⊢
      exact ih (s := next.logged journal) hnext h
    · match outcome with
      | .ok .closed =>
        rw [run_of_closed hr] at h
        cases h
      | .ok (.delivered _) | .ok .idle => exact absurd rfl ho
      | .error cause =>
        have hcause : (s.receive subscriber state).1 = .error cause := by rw [hr]
        -- a frame that is rejected does not end the run, so that the wait has failed
        rcases receive_of_error hcause with ⟨hn, -⟩ | ⟨-, _, -,
          ⟨fault, _, _, rfl, -⟩ | ⟨fault, rfl, hphase⟩⟩
        · exact absurd ha hn
        · exact absurd rfl ho
        · rw [run_of_failed hr] at h ⊢
          obtain rfl := Except.error.inj (Option.some.inj h)
          rw [hr] at hphase
          exact ⟨rfl, hphase⟩

/-- A run that fails has failed the session, since it skips rejected frames, or has found it not
open. -/
theorem run_failed {s : Session κ τ} {subscriber : Subscriber η} {state : η} {limit : Nat}
    {e : SessionError} (h : (s.run limit subscriber state).1 = some (.error e)) :
    Failed s (s.run limit subscriber state).2.2 e ∧
      (e.isTerminal = false → s.phase ≠ .active) := by
  by_cases ha : s.phase = .active
  · obtain ⟨terminal, hphase⟩ := run_of_error ha h
    exact ⟨.ended terminal (by simp [ha, Phase.isFinished]) hphase,
      fun harmless => by simp [terminal] at harmless⟩
  · cases limit with
    | zero => cases h
    | succ limit =>
      rw [run_of_not_open ha] at h ⊢
      split at h
      · cases h
      · obtain rfl := Except.error.inj (Option.some.inj h)
        exact ⟨.left rfl (.refl s), fun _ => ha⟩

theorem run_state_of_not_open {s : Session κ τ} (ha : s.phase ≠ .active) (limit : Nat)
    (subscriber : Subscriber η) (state : η) : (s.run limit subscriber state).2.1 = state := by
  cases limit with
  | zero => rfl
  | succ limit => rw [run_of_not_open ha]

/-- The call delivers no event: whoever subscribes in the place of its subscriber keeps its
state. -/
def Quietly (s : Session κ τ) : Call → Prop
  | .receive _ _ => ∀ {η : Type} (subscriber : Subscriber η) (state : η),
      (s.receive subscriber state).2.1 = state
  | .run limit _ _ => ∀ {η : Type} (subscriber : Subscriber η) (state : η),
      (s.run limit subscriber state).2.1 = state
  | _ => True

/-- No event of a rejected frame reaches any subscriber. -/
theorem quietly_receive {s : Session κ τ} {subscriber : Subscriber η} {state : η}
    {e : SessionError} (h : (s.receive subscriber state).1 = .error e)
    (harmless : e.isTerminal = false) : s.Quietly (.receive subscriber state) := by
  intro η' subscriber' state'
  have hother : (s.receive subscriber' state').1 = .error e :=
    (s.receive_fst subscriber' state' subscriber state).trans h
  exact (receive_failed hother).2 harmless

end Session

open Session in
/-- **A failure tells whether the session has ended.** A call that fails has taken the session from
a phase that was not its end to the failed one if its failure is terminal, and only then. With any
other failure the session still holds its group, its stream and its registered resources, has
deleted and closed nothing, in its trace as well as outside, and no event has reached the
subscriber. -/
theorem failure_tells_end {κ τ : Type} [FrameTransport τ] [StreamConnector κ τ]
    (s : Session κ τ) (call : Call) {e : SessionError}
    (h : (s.perform call).1.failure? = some e) :
    (e.isTerminal = true ↔
      s.phase.isFinished = false ∧ (s.perform call).2.phase = .failed) ∧
    (e.isTerminal = false → s.LeftAs (s.perform call).2 ∧ s.Quietly call ∧
      s.outside.Spares (s.perform call).2.outside) := by
  -- one case for each call that can fail, from the lemma on how that call fails
  have hfailed : Failed s (s.perform call).2 e ∧ (e.isTerminal = false → s.Quietly call) := by
    cases call with
    | start subscription =>
      cases hs : (s.start subscription).1 with
      | ok => simp [perform, hs, Reply.failure?] at h
      | error cause =>
        obtain rfl : cause = e := by simpa [perform, hs, Reply.failure?] using h
        exact ⟨start_failed hs, fun _ => trivial⟩
    | receive subscriber state =>
      cases hs : (s.receive subscriber state).1 with
      | ok => simp [perform, hs, Reply.failure?] at h
      | error cause =>
        obtain rfl : cause = e := by simpa [perform, hs, Reply.failure?] using h
        exact ⟨(receive_failed hs).1, quietly_receive hs⟩
    | run limit subscriber state =>
      cases hs : (s.run limit subscriber state).1 with
      | none => simp [perform, hs, Reply.failure?] at h
      | some outcome =>
        cases outcome with
        | ok => simp [perform, hs, Reply.failure?] at h
        | error cause =>
          obtain rfl : cause = e := by simpa [perform, hs, Reply.failure?] using h
          obtain ⟨hfailed, hnotopen⟩ := run_failed hs
          exact ⟨hfailed, fun harmless _ => run_state_of_not_open (hnotopen harmless) limit⟩
    | update subscription router =>
      cases hs : (s.update subscription router).1 with
      | ok => simp [perform, hs, Reply.failure?] at h
      | error cause =>
        obtain rfl : cause = e := by simpa [perform, hs, Reply.failure?] using h
        exact ⟨update_failed hs, fun _ => trivial⟩
    | close | detach | requestClose => cases h
  refine ⟨hfailed.1.isTerminal_iff, fun harmless => ?_⟩
  have hleft := hfailed.1.leftAs harmless
  -- what was added to the trace has neither a deletion nor a closing, and the trace is what took
  -- place outside
  obtain ⟨added, htrace, hnone, -⟩ := hleft.outside
  exact ⟨hleft, hfailed.2 harmless, ((s.perform_accounted call).doesAll htrace).spares hnone⟩

/-- A session with an open stream that plays the waits. -/
def listening (waits : List Wait) : Session TapePlayer Tape :=
  let fresh : Session TapePlayer Tape :=
    Session.create grantingClient {} ⟨⟨waits, none⟩, none⟩ { pollInterval := .ofMilliseconds 500 }
  { fresh with phase := .active, group? := some "1", transport? := some ⟨waits, none⟩ }

/-- Text without a root is no page. -/
theorem parse_unmarked :
    ParsedFrame.parse "x" = .error (.inContext (.malformedMarkup (.misplaced "x")) "x") := by
  have hpage : Markup.parse "x" = .error (.misplaced "x") := by
    change (Markup.Draft.readAll { dialect := { version := .v10 } } ⟨⟨.content, ['x']⟩, 0, 0⟩ >>=
      Markup.Draft.root) = _
    rw [Markup.Draft.readAll]
    rfl
  rw [ParsedFrame.parse, if_neg (by decide), Page.parse, hpage]
  rfl

/-- The first session rejects a frame and goes on; the wait of the second one fails and ends it. -/
theorem rejected_frame_and_failed_wait :
    let rejecting := listening [⟨.ok (.frame ⟨0x81, "x"⟩), false, false⟩]
    let failing := listening [⟨.error (.read "connection reset"), false, false⟩]
    let call : Call := .receive ({ handle := fun n _ _ => n + 1 } : Subscriber Nat) 0
    (∃ cause, (rejecting.perform call).1.failure? = some (.frame cause) ∧
      rejecting.LeftAs (rejecting.perform call).2 ∧ rejecting.Quietly call) ∧
    (failing.perform call).1.failure? = some (.transport (.read "connection reset")) ∧
      (failing.perform call).2.phase = .failed := by
  intro rejecting failing call
  have hreceive : (rejecting.receive ({ handle := fun n _ _ => n + 1 } : Subscriber Nat) 0).1 =
      .error (.frame (.inContext (.malformedMarkup (.misplaced "x")) "x")) :=
    Session.receive_of_malformed rfl rfl rfl rfl rfl parse_unmarked
  have hrejected : (rejecting.perform call).1.failure? =
      some (.frame (.inContext (.malformedMarkup (.misplaced "x")) "x")) := by
    simp only [call, Session.perform, hreceive, Reply.failure?]
  have hfailed : (failing.perform call).1.failure? =
      some (.transport (.read "connection reset")) := rfl
  obtain ⟨hleft, hquiet, -⟩ := (failure_tells_end rejecting call hrejected).2 rfl
  have hended := ((failure_tells_end failing call hfailed).1.mp rfl).2
  exact ⟨⟨_, hrejected, hleft, hquiet⟩, hfailed, hended⟩

end RobotWeb.Stream
