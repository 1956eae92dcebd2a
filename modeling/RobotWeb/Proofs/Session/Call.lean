import RobotWeb.Stream.Session

/-!
# Calls on a session

The operations of a session as data, so that a statement can speak of every sequence of calls. A
call carries what its caller hands over and a reply what the caller gets back. What the controller,
the connector and the transport answer is part of the session that the calls are made on, so that a
statement about every session speaks of every choice of answers.

* `Session.create`       — the session before its first call.
* `Session.perform`      — one call.
* `Session.performAll`   — calls one after the other, with the replies to all of them.
* `Session.Reached`      — the sessions that calls can lead to.
* `performAll_keeps`, `performAll_keeps_past` — what each single call keeps, any sequence of calls
  keeps.
-/

namespace RobotWeb.Stream

/-- A call on a session. Every call that receives may bring a subscriber of its own, and a run gives
up after `limit` waits, if it has not ended by then. -/
inductive Call : Type 1 where
  | start (subscription : Subscription)
  | receive {η : Type} (subscriber : Subscriber η) (state : η)
  | run {η : Type} (limit : Nat) (subscriber : Subscriber η) (state : η)
  | update (subscription : Subscription) (router : Router)
  | close
  | detach
  | requestClose

inductive Reply where
  | started (outcome : Except SessionError Unit)
  | received (outcome : Except SessionError Received)
  | ran (outcome : Option (Except SessionError Unit))
  | updated (outcome : Except SessionError Unit)
  | closed
  | detached (group? : Option String)
  | requested

namespace Session

variable {κ τ : Type}

/-- A session before its first call. -/
def create (client : Http.Client) (router : Router) (connector : κ) (options : Options) :
    Session κ τ :=
  { client, router, connector, options }

variable [FrameTransport τ] [StreamConnector κ τ]

/-- One call: its reply and the session after it. -/
def perform (s : Session κ τ) : Call → Reply × Session κ τ
  | .start subscription => (.started (s.start subscription).1, (s.start subscription).2)
  | .receive subscriber state =>
    (.received (s.receive subscriber state).1, (s.receive subscriber state).2.2)
  | .run limit subscriber state =>
    (.ran (s.run limit subscriber state).1, (s.run limit subscriber state).2.2)
  | .update subscription router =>
    (.updated (s.update subscription router).1, (s.update subscription router).2)
  | .close => (.closed, s.close)
  | .detach => (.detached s.detach.1, s.detach.2)
  | .requestClose => (.requested, s.requestClose)

/-- Calls one after the other: their replies, the first one first, and the session after them. -/
def performAll (s : Session κ τ) : List Call → List Reply × Session κ τ
  | [] => ([], s)
  | call :: rest =>
    let (reply, next) := s.perform call
    let (replies, last) := next.performAll rest
    (reply :: replies, last)

/-- Some calls on a fresh session lead to the session. -/
def Reached (s : Session κ τ) : Prop :=
  ∃ client router connector options calls,
    ((create client router connector options : Session κ τ).performAll calls).2 = s

/-- What each single call keeps, together with the replies so far, any sequence of calls keeps. -/
theorem performAll_keeps {P : List Reply → Session κ τ → Prop}
    (step : ∀ replies (s : Session κ τ) call, P replies s →
      P (replies ++ [(s.perform call).1]) (s.perform call).2)
    (calls : List Call) {replies : List Reply} {s : Session κ τ} (h : P replies s) :
    P (replies ++ (s.performAll calls).1) (s.performAll calls).2 := by
  induction calls generalizing replies s with
  | nil => simpa [performAll] using h
  | cons call rest ih =>
    have hrest := ih (step replies s call h)
    simpa [performAll, List.append_assoc] using hrest

/-- What each single call keeps, together with the calls so far and their replies, any sequence of
calls keeps. -/
theorem performAll_keeps_past {P : List (Call × Reply) → Session κ τ → Prop}
    (step : ∀ past (s : Session κ τ) call, P past s →
      P (past ++ [(call, (s.perform call).1)]) (s.perform call).2)
    (calls : List Call) {past : List (Call × Reply)} {s : Session κ τ} (h : P past s) :
    P (past ++ calls.zip (s.performAll calls).1) (s.performAll calls).2 := by
  induction calls generalizing past s with
  | nil => simpa [performAll] using h
  | cons call rest ih =>
    have hrest := ih (step past s call h)
    simpa [performAll, List.append_assoc] using hrest

end Session

end RobotWeb.Stream
