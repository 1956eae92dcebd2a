import RobotWeb.Proofs.Session.Failure
import RobotWeb.Proofs.Session.Standing

/-!
# Phases of a session between calls

Between two calls the phase says what a session holds. Requesting and closing are passed through
inside one call and are never seen, only an active session has a group and a stream, and both of the
last phases are final.

* `Session.Settled`              — what the phase says of the group and the stream.
* `perform_of_finished`          — no call does anything to a session that has ended.
* `perform_of_unopened`          — which calls take a session out of its first phase.
* `phases_between_calls`         — all of it, after any calls.
-/

namespace RobotWeb.Stream

/-- Calls that take a session out of its first phase. -/
def Call.leavesUnopened : Call → Bool
  | start subscription => !subscription.isEmpty
  | close => true
  | _ => false

namespace Session

variable {κ τ : Type}

/-- The phase is one of four, and a group and a stream are held in the active one and in no
other. -/
structure Settled (s : Session κ τ) : Prop where
  phase : s.phase = .unopened ∨ s.phase = .active ∨ s.phase = .closed ∨ s.phase = .failed
  group : s.phase = .active ↔ s.group?.isSome = true
  transport : s.phase = .active ↔ s.transport?.isSome = true

/-- Wherever a session stands, its phase says what it holds. -/
theorem Standing.settled {client : Http.Client} {replies : List Reply} {s : Session κ τ}
    (h : s.Standing client replies) : s.Settled := by
  cases h with
  | untouched h => exact ⟨.inl h.phase, by simp [h.phase, h.group], by simp [h.phase, h.transport]⟩
  | streaming form locator protocol talk h =>
    obtain ⟨transport, ht⟩ := h.transport
    exact ⟨.inr (.inl h.phase), by simp [h.phase, h.group], by simp [h.phase, ht]⟩
  | ended life h =>
    have hp := h.phase
    cases hphase : s.phase <;> simp only [hphase, Phase.isFinished, Bool.false_eq_true] at hp
    case closed =>
      exact ⟨by simp [hphase], by simp [hphase, h.group], by simp [hphase, h.transport]⟩
    case failed =>
      exact ⟨by simp [hphase], by simp [hphase, h.group], by simp [hphase, h.transport]⟩

-- ---------------------------------------------------------------------------
-- The last phases
-- ---------------------------------------------------------------------------

variable [FrameTransport τ] {s : Session κ τ}

/-- Closing a session that has ended does nothing. -/
theorem close_of_finished (h : s.phase.isFinished = true) : s.close = s :=
  close_of_neither (fun hp => by simp [hp, Phase.isFinished] at h)
    fun hp => by simp [hp, Phase.isFinished] at h

/-- Detaching it gives no group. -/
theorem detach_of_finished (h : s.phase.isFinished = true) : s.detach = (none, s) := by
  have ha : s.phase ≠ .active := by
    intro hactive
    simp [hactive, Phase.isFinished] at h
  simp [detach, ha]

variable [StreamConnector κ τ]

/-- Once a session has ended, calls can do no more than ask it to close. -/
theorem perform_of_finished (h : s.phase.isFinished = true) (call : Call) :
    ∃ closeRequested, (s.perform call).2 = { s with closeRequested } := by
  have ha : s.phase ≠ .active := by
    intro hactive
    simp [hactive, Phase.isFinished] at h
  have hu : s.phase ≠ .unopened := by
    intro hunopened
    simp [hunopened, Phase.isFinished] at h
  by_cases hcall : call.needsStream = true
  · exact ⟨s.closeRequested, (perform_of_not_active ha call hcall).1⟩
  cases call with
  | start subscription => exact ⟨s.closeRequested, by simp [perform, start, hu]⟩
  | close => exact ⟨s.closeRequested, by simp [perform, close_of_finished h]⟩
  | requestClose => exact ⟨true, rfl⟩
  | receive | run | update | detach => exact absurd rfl hcall

/-- No calls do anything else to a session that has ended: by induction on the calls, each of which
leaves it ended. -/
theorem performAll_of_finished (h : s.phase.isFinished = true) (calls : List Call) :
    ∃ closeRequested, (s.performAll calls).2 = { s with closeRequested } := by
  induction calls generalizing s with
  | nil => exact ⟨s.closeRequested, rfl⟩
  | cons call rest ih =>
    obtain ⟨asked, hs⟩ := perform_of_finished h call
    have hnext : (s.perform call).2.phase.isFinished = true := by
      rw [hs]
      exact h
    obtain ⟨closeRequested, hrest⟩ := ih hnext
    refine ⟨closeRequested, ?_⟩
    rw [performAll, hrest, hs]

-- ---------------------------------------------------------------------------
-- The first phase
-- ---------------------------------------------------------------------------

/-- A session that was not opened stays so until it is opened with some resources or closed. -/
theorem perform_of_unopened (h : s.phase = .unopened) (call : Call) :
    (s.perform call).2.phase ≠ .unopened ↔ call.leavesUnopened = true := by
  by_cases hcall : call.needsStream = true
  · rw [(perform_of_not_active (by simp [h]) call hcall).1]
    cases call <;> simp_all [Call.needsStream, Call.leavesUnopened]
  cases call with
  | start subscription =>
    rcases start_cases s subscription with ⟨hp | he, cause, -, hs⟩ | ⟨-, he, hended⟩
    · exact absurd h hp
    · simp [perform, hs, h, Call.leavesUnopened, he]
    · rcases hended with ⟨-, -, -, hphase⟩ | ⟨-, hphase⟩
      · simp [perform, hphase, Call.leavesUnopened, he]
      · simp [perform, hphase, Call.leavesUnopened, he]
  | close => simp [perform, close, h, Call.leavesUnopened]
  | requestClose => simp [perform, requestClose, h, Call.leavesUnopened]
  | receive | run | update | detach => exact absurd rfl hcall

end Session

open Session in
/-- **The phase says what a session holds, and the last phases are final.** After any calls, and
whatever the outside answered, the phase is unopened, active, closed or failed; the session has a
group and a stream if it is active, and else neither; a session that has ended is not changed by any
later calls but for a noted request to close, and closing or detaching it does nothing and gives
nothing; and a session that was not opened stays so until it is opened with some resources or
closed. -/
theorem phases_between_calls {κ τ : Type} [FrameTransport τ] [StreamConnector κ τ]
    (client : Http.Client) (router : Router) (connector : κ) (options : Options)
    (calls : List Call) :
    let s := ((create client router connector options : Session κ τ).performAll calls).2
    s.Settled ∧
    (s.phase.isFinished = true → ∀ later : List Call,
      let t := (s.performAll later).2
      (∃ closeRequested, t = { s with closeRequested }) ∧ t.close = t ∧ t.detach = (none, t)) ∧
    (s.phase = .unopened → ∀ call : Call,
      (s.perform call).2.phase ≠ .unopened ↔ call.leavesUnopened = true) := by
  intro s
  refine ⟨(standing_performAll client router connector options calls).settled,
    fun hfinished later => ?_, fun hunopened call => perform_of_unopened hunopened call⟩
  obtain ⟨closeRequested, ht⟩ := performAll_of_finished hfinished later
  have hlater : (s.performAll later).2.phase.isFinished = true := by
    rw [ht]
    exact hfinished
  exact ⟨⟨closeRequested, ht⟩, close_of_finished hlater, detach_of_finished hlater⟩

/-- A session whose controller will create a group. -/
def unopenedSession : Session TapePlayer Tape :=
  Session.create grantingClient {} {} { pollInterval := .ofMilliseconds 500 }

def signalCall : Call :=
  .start ⟨[⟨"/rw/iosystem/signals/do1;state", .high⟩]⟩

/-- A session is opened, holds its group and its stream, and is detached from its group; then it
cannot be opened again and gives no group any more. -/
theorem opened_once_and_detached :
    let opened := (unopenedSession.performAll [signalCall]).2
    let detached := (unopenedSession.performAll [signalCall, .detach]).2
    opened.phase = .active ∧ opened.group?.isSome = true ∧ opened.transport?.isSome = true ∧
      detached.phase = .closed ∧ (detached.performAll [signalCall]).2.detach.1 = none ∧
      (unopenedSession.perform signalCall).2.phase ≠ .unopened := by
  -- about all calls at first, since a session that runs given ones is unfolded too far
  have hphases (calls : List Call) := phases_between_calls (τ := Tape) grantingClient {}
    ({} : TapePlayer) { pollInterval := .ofMilliseconds 500 } calls
  have hsettled (calls : List Call) : (unopenedSession.performAll calls).2.Settled :=
    (hphases calls).1
  have hended (calls : List Call)
      (h : (unopenedSession.performAll calls).2.phase.isFinished = true) (later : List Call) :
      ((unopenedSession.performAll calls).2.performAll later).2.detach.1 = none := by
    unfold unopenedSession at h ⊢
    rw [((hphases calls).2.1 h later).2.2]
  have hleaves : unopenedSession.phase = .unopened → ∀ call : Call,
      (unopenedSession.perform call).2.phase ≠ .unopened ↔ call.leavesUnopened = true :=
    (hphases []).2.2
  have hactive : (unopenedSession.performAll [signalCall]).2.phase = .active := by cbv
  have hclosed : (unopenedSession.performAll [signalCall, .detach]).2.phase = .closed := by cbv
  refine ⟨hactive, (hsettled _).group.mp hactive, (hsettled _).transport.mp hactive, hclosed,
    hended _ ?_ _, (hleaves rfl signalCall).mpr rfl⟩
  rw [hclosed]
  rfl

end RobotWeb.Stream
