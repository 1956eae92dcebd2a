import RobotWeb.Proofs.Controller.Operation
import RobotWeb.Proofs.Session.Failure

/-!
# Values are looked at before anything is sent

An operation that fails for a value of its caller has done nothing yet, and there is no other way to
such a failure: no answer of the controller, no wait and no frame leads to one.

* `SessionError.validation?`      — the fault of a value that a failure tells of.
* `Session.Violates`              — the values that a call on a session refuses.
* `perform_of_violates`           — a call that is given such a value does nothing.
* `start_violates`, `update_violates`, `receive_validation`, `run_validation` — when a call fails
  for a value.
* `failure?_start`, `failure?_receive`, `failure?_run`, `failure?_update` — the failure of a call is
  that of its operation.
* `violates_of_perform`           — no call fails for a value that is within its contract.
* `validation_precedes_exchange`  — operations on the controller and calls on a session.
-/

namespace RobotWeb.Stream

/-- The fault of a value that the failure tells of, be it of a call or of an update. -/
def SessionError.validation? : SessionError → Option ValidationError
  | api (.validation e) | update (.validation e) => some e
  | _ => none

/-- What ends a session is not the fault of a value. -/
theorem SessionError.validation?_of_isTerminal {f : SessionError} (h : f.isTerminal = true) :
    f.validation? = none := by
  cases f with
  | api cause =>
    cases cause with
    | validation e => cases h
    | protocol | mastership | transport => rfl
  | transport => rfl
  | update | frame | invalidState => cases h

theorem SessionError.validation?_update_ofHttp (cause : HttpError) :
    (SessionError.update (.ofHttp cause)).validation? = none := by
  cases cause <;> rfl

/-- The fault of a value that a reply tells of. -/
def Reply.validation? (reply : Reply) : Option ValidationError :=
  reply.failure?.bind SessionError.validation?

namespace Session

variable {κ τ η : Type}

/-- The call is given a value that is outside its contract: a set without resources, while the
session would subscribe to it. -/
inductive Violates (s : Session κ τ) : Call → ValidationError → Prop where
  | start (unopened : s.phase = .unopened) : Violates s (.start ⟨[]⟩) (.missing "resources")
  | update (active : s.phase = .active) (router : Router) :
      Violates s (.update ⟨[]⟩ router) (.missing "resources")

theorem eq_nil_of_isEmpty {subscription : Subscription} (h : subscription.isEmpty = true) :
    subscription = ⟨[]⟩ := by
  obtain ⟨entries⟩ := subscription
  obtain rfl : entries = [] := List.isEmpty_iff.mp h
  rfl

/-- A validation error of an update is about the constraint that the update violates. -/
theorem update_violates {s : Session κ τ} {subscription : Subscription} {router : Router}
    {f : SessionError} {e : ValidationError} (h : (s.update subscription router).1 = .error f)
    (hf : f.validation? = some e) : s.Violates (.update subscription router) e := by
  by_cases hp : s.phase = .active
  · by_cases he : subscription.isEmpty = true
    · obtain rfl := eq_nil_of_isEmpty he
      simp only [update, hp, ne_eq, not_true_eq_false, if_false, he, if_true] at h
      obtain rfl := Except.error.inj h
      obtain rfl := Option.some.inj hf
      exact .update hp router
    -- past both checks only the request can fail, which is no validation error
    · simp only [update, hp, he, ne_eq, not_true_eq_false, if_false, Bool.false_eq_true] at h
      split at h
      · cases h
      · split at h
        · obtain rfl := Except.error.inj h
          simp [SessionError.validation?_update_ofHttp] at hf
        · cases h
  · simp only [update, hp, ne_eq, not_false_eq_true, if_true] at h
    obtain rfl := Except.error.inj h
    cases hf

variable [FrameTransport τ]

/-- A receive has no validation errors, since it is given no values. -/
theorem receive_validation {s : Session κ τ} {subscriber : Subscriber η} {state : η}
    {f : SessionError} (h : (s.receive subscriber state).1 = .error f) : f.validation? = none := by
  rcases receive_of_error h with ⟨-, rfl, -⟩ | ⟨-, _, -, ⟨_, _, _, rfl, -⟩ | ⟨_, rfl, -⟩⟩ <;> rfl

/-- Neither has a run, which is made of receives. -/
theorem run_validation {s : Session κ τ} {limit : Nat} {subscriber : Subscriber η} {state : η}
    {f : SessionError} (h : (s.run limit subscriber state).1 = some (.error f)) :
    f.validation? = none := by
  by_cases ha : s.phase = .active
  · exact SessionError.validation?_of_isTerminal (run_of_error ha h).1
  · cases limit with
    | zero => cases h
    | succ limit =>
      rw [run_of_not_open ha] at h
      split at h
      · cases h
      · obtain rfl := Except.error.inj (Option.some.inj h)
        rfl

variable [StreamConnector κ τ]

/-- A validation error of an opening is about the constraint that the opening violates. -/
theorem start_violates {s : Session κ τ} {subscription : Subscription} {f : SessionError}
    {e : ValidationError} (h : (s.start subscription).1 = .error f) (hf : f.validation? = some e) :
    s.Violates (.start subscription) e := by
  by_cases hp : s.phase = .unopened
  · by_cases he : subscription.isEmpty = true
    · obtain rfl := eq_nil_of_isEmpty he
      simp only [start, hp, ne_eq, not_true_eq_false, if_false, he, if_true] at h
      obtain rfl := Except.error.inj h
      obtain rfl := Option.some.inj hf
      exact .start hp
    -- past both checks an opening fails with the wire only, which is no validation error
    · rcases start_cases s subscription with ⟨hopened | hempty, -⟩ |
        ⟨-, -, ⟨cause, hs, terminal, -⟩ | ⟨hs, -⟩⟩
      · exact absurd hp hopened
      · exact absurd hempty he
      · rw [hs] at h
        obtain rfl := Except.error.inj h
        simp [SessionError.validation?_of_isTerminal terminal] at hf
      · rw [hs] at h
        cases h
  · simp only [start, hp, ne_eq, not_false_eq_true, if_true] at h
    obtain rfl := Except.error.inj h
    cases hf

-- ---------------------------------------------------------------------------
-- Any call
-- ---------------------------------------------------------------------------

section Failures

variable {s : Session κ τ} {f : SessionError}

theorem failure?_start {subscription : Subscription} :
    (s.perform (.start subscription)).1.failure? = some f ↔
      (s.start subscription).1 = .error f := by
  simp only [perform]
  cases (s.start subscription).1 <;> simp [Reply.failure?]

theorem failure?_receive {subscriber : Subscriber η} {state : η} :
    (s.perform (.receive subscriber state)).1.failure? = some f ↔
      (s.receive subscriber state).1 = .error f := by
  simp only [perform]
  cases (s.receive subscriber state).1 <;> simp [Reply.failure?]

theorem failure?_run {limit : Nat} {subscriber : Subscriber η} {state : η} :
    (s.perform (.run limit subscriber state)).1.failure? = some f ↔
      (s.run limit subscriber state).1 = some (.error f) := by
  simp only [perform]
  rcases (s.run limit subscriber state).1 with - | ⟨- | -⟩ <;> simp [Reply.failure?]

theorem failure?_update {subscription : Subscription} {router : Router} :
    (s.perform (.update subscription router)).1.failure? = some f ↔
      (s.update subscription router).1 = .error f := by
  simp only [perform]
  cases (s.update subscription router).1 <;> simp [Reply.failure?]

end Failures

/-- A call fails for a value only if the value is outside its contract. -/
theorem violates_of_perform {s : Session κ τ} {call : Call} {e : ValidationError}
    (h : (s.perform call).1.validation? = some e) : s.Violates call e := by
  obtain ⟨f, hfailure, hf⟩ := Option.bind_eq_some_iff.mp h
  cases call with
  | start subscription => exact start_violates (failure?_start.mp hfailure) hf
  | receive subscriber state => simp [receive_validation (failure?_receive.mp hfailure)] at hf
  | run limit subscriber state => simp [run_validation (failure?_run.mp hfailure)] at hf
  | update subscription router => exact update_violates (failure?_update.mp hfailure) hf
  | close | detach | requestClose => cases hfailure

/-- A call that is given a value outside its contract tells so and does nothing else. -/
theorem perform_of_violates {s : Session κ τ} {call : Call} {e : ValidationError}
    (h : s.Violates call e) :
    (s.perform call).1.failure? = some (.api (.validation e)) ∧ (s.perform call).2 = s ∧
      s.Quietly call := by
  cases h with
  | start unopened =>
    have hs : s.start ⟨[]⟩ = (.error (.api (.validation (.missing "resources"))), s) := by
      simp [start, unopened, Subscription.isEmpty]
    simp [perform, hs, Reply.failure?, Quietly]
  | update active router =>
    have hs : s.update ⟨[]⟩ router =
        (.error (.api (.validation (.missing "resources"))), s) := by
      simp [update, active, Subscription.isEmpty]
    simp [perform, hs, Reply.failure?, Quietly]

end Session

/-- **Validation precedes every exchange.** An operation on the controller fails for a value exactly
if the value is outside its contract, and a call on a session does so too; both have then done
nothing at all: no request was sent and no stream opened, no event has reached a subscriber, and the
client with its cookies and the session with its phase, its group and its router are what they were.
The controller has no part in it: nothing is assumed of its answers, and no failure of a request is
taken for the fault of a value. -/
theorem validation_precedes_exchange {κ τ : Type} [FrameTransport τ] [StreamConnector κ τ]
    (op : Operation) (c : Http.Client) (s : Session κ τ) (call : Call) (cause : HttpError)
    (e : ValidationError) :
    ((op.perform c).1 = .error (.validation e) ↔ op.Violates e) ∧
    (op.Violates e ↔ op.perform c = (.error (.validation e), c)) ∧
    ((s.perform call).1.validation? = some e ↔ s.Violates call e) ∧
    (s.Violates call e ↔
      (s.perform call).1.failure? = some (.api (.validation e)) ∧ (s.perform call).2 = s ∧
        s.Quietly call) ∧
    ApiError.ofHttp cause ≠ .validation e := by
  have hfault : ∀ {f}, (s.perform call).1.failure? = some f → f.validation? = some e →
      (s.perform call).1.validation? = some e :=
    fun h hf => Option.bind_eq_some_iff.mpr ⟨_, h, hf⟩
  refine ⟨op.perform_eq_validation c e, ⟨fun h => op.perform_of_violates h c, fun h => ?_⟩,
    ⟨Session.violates_of_perform, fun h => hfault (Session.perform_of_violates h).1 rfl⟩,
    ⟨Session.perform_of_violates, fun h => Session.violates_of_perform (hfault h.1 rfl)⟩,
    ApiError.ofHttp_ne_validation cause e⟩
  exact (op.perform_eq_validation c e).mp (by rw [h])

end RobotWeb.Stream
