import RobotWeb.Controller.Call
import RobotWeb.Proofs.Http.Retry

/-!
# The answer that a call ends with

What comes of a call is decided by the last answer that it gets. Answers that the controller was
busy are passed over as long as there is patience. An answer is one as soon as its headers have
arrived, but it is read only if it is whole: if its body breaks off, the transport has failed for
the caller.

* `LastAnswer`          — the answer that came last between two states of the network.
* `Client.lastAnswer_iff` — which of the outcomes to come is that answer.
* `Client.send_cases`   — what a request makes of that answer, or its failure without one.
* `Client.send_eq_ok`   — a request hands it over if it is whole and its status is accepted.
* `Call.reading_eq_ok`  — an operation gives what it reads from it.
-/

namespace RobotWeb

/-- The failure tells of no status: no URL could be built, or the transport has failed. -/
def HttpError.Unanswered : HttpError → Prop
  | .transport _ | .invalidUrl _ _ => True
  | _ => False

namespace Http

/-- The last exchange between two states of the network has brought this answer, whether or not its
body has arrived to the end. -/
def LastAnswer (before after : Network) (answer : Answer) : Prop :=
  ∃ earlier last, before.Talk (earlier ++ [last]) after ∧ last.outcome = .ok answer

variable {before after : Network} {answer answer' : Answer}

/-- Which exchange was the last is told by the states before and after it. -/
theorem Network.Talk.lastAnswer_iff {earlier : List Exchange} {last : Exchange}
    (h : before.Talk (earlier ++ [last]) after) :
    LastAnswer before after answer ↔ last.outcome = .ok answer := by
  constructor
  · rintro ⟨earlier', last', h', houtcome⟩
    obtain ⟨-, rfl⟩ := List.append_singleton_inj.mp (h.unique h' rfl)
    exact houtcome
  · exact fun houtcome => ⟨earlier, last, h, houtcome⟩

/-- No two answers came last. -/
theorem LastAnswer.unique (h : LastAnswer before after answer)
    (h' : LastAnswer before after answer') : answer = answer' := by
  obtain ⟨earlier, last, htalk, hlast⟩ := h
  rw [htalk.lastAnswer_iff, hlast] at h'
  exact Except.ok.inj h'

/-- Without an exchange there is no answer. -/
theorem Network.Talk.not_lastAnswer (h : before.Talk [] after) :
    ¬ LastAnswer before after answer := by
  rintro ⟨earlier, last, htalk, -⟩
  have hnone := htalk.unique h rfl
  simp at hnone

namespace Client

section

variable (c : Client) (method : Method) (path : String) (body : Option String)
  (accepted : List Nat)

/-- A request judges its last answer if this is whole, or has failed without one. -/
theorem send_cases :
    (∃ answer, LastAnswer c.network (c.send method path body accepted).2.network answer ∧
      (c.send method path body accepted).1 =
        wholeAnswer (.ok answer) >>= judge method path accepted) ∨
    ∃ e, (c.send method path body accepted).1 = .error e ∧ e.Unanswered ∧
      ∀ answer, ¬ LastAnswer c.network (c.send method path body accepted).2.network answer := by
  obtain ⟨talk, htalk, hrequested⟩ := c.send_requested method path body accepted
  -- only the exchanges and the result count from here on
  generalize c.send method path body accepted = reply at htalk hrequested ⊢
  obtain ⟨result, after⟩ := reply
  cases hrequested with
  | unsent => exact .inr ⟨_, rfl, trivial, fun _ => htalk.not_lastAnswer⟩
  | @sent _ busies last _ _ hsent =>
    have hresult : result = wholeAnswer last.outcome >>= judge method path accepted :=
      hsent.result
    cases houtcome : last.outcome with
    | ok answer => exact .inl ⟨answer, htalk.lastAnswer_iff.mpr houtcome, houtcome ▸ hresult⟩
    | error message =>
      rw [houtcome] at hresult
      refine .inr ⟨.transport message, hresult, trivial, fun answer h => ?_⟩
      rw [htalk.lastAnswer_iff, houtcome] at h
      cases h

end

variable {c : Client} {method : Method} {path : String} {body : Option String}
  {accepted : List Nat}

/-- The last answer is the outcome behind the busy answers that there is patience for. -/
theorem lastAnswer_iff {url : Url} (hurl : c.resolve path = .ok url) :
    LastAnswer c.network (c.send method path body accepted).2.network answer ↔
      c.network.outcomeAt (min c.network.busyAhead c.options.retryBackoff.length) =
        .ok answer := by
  have hsend : c.send method path body accepted =
      c.sendTo method url path body accepted c.options.retryBackoff := by
    unfold send
    rw [hurl]
  obtain ⟨busies, last, htalk, hsent⟩ :=
    c.sendTo_sent method url path body accepted c.options.retryBackoff
  obtain ⟨hbusies, hlast⟩ := hsent.attempts htalk
  rw [hsend, ← hbusies, ← hlast]
  exact htalk.lastAnswer_iff

/-- An answer is handed over if its status is accepted. -/
theorem judge_eq_ok :
    judge method path accepted answer' = .ok answer ↔
      answer' = answer ∧ answer.status ∈ accepted := by
  unfold judge
  by_cases hstatus : answer'.status ∈ accepted
  · rw [if_pos (List.contains_iff_mem.mpr hstatus), Except.ok.injEq]
    exact ⟨fun h => ⟨h, h ▸ hstatus⟩, fun h => h.1⟩
  · rw [if_neg (by simpa using hstatus)]
    exact ⟨nofun, fun h => absurd (h.1 ▸ h.2) hstatus⟩

/-- An answer whose body breaks off is a failed transport, whatever its status. -/
theorem send_of_broken {message : String}
    (h : LastAnswer c.network (c.send method path body accepted).2.network answer)
    (hbroken : answer.bodyFault? = some message) :
    (c.send method path body accepted).1 = .error (.transport message) := by
  rcases c.send_cases method path body accepted with ⟨answer', hlast, hsend⟩ | ⟨-, -, -, hnone⟩
  · obtain rfl := h.unique hlast
    rw [hsend, wholeAnswer_of_broken hbroken]
    rfl
  · exact absurd h (hnone answer)

/-- A request hands over its last answer if this is whole and the status is accepted. -/
theorem send_eq_ok :
    (c.send method path body accepted).1 = .ok answer ↔
      LastAnswer c.network (c.send method path body accepted).2.network answer ∧
        answer.isWhole = true ∧ answer.status ∈ accepted := by
  -- no answer, one that breaks off, and a whole one, which is judged by its status
  rcases c.send_cases method path body accepted with ⟨answer', hlast, hsend⟩ | ⟨e, hsend, -, hnone⟩
  · rcases wholeAnswer_cases answer' with ⟨hwhole, hsame⟩ | ⟨message, hfault, -⟩
    · have hjudged : (c.send method path body accepted).1 = judge method path accepted answer' := by
        rw [hsend, hsame]
        rfl
      rw [hjudged, judge_eq_ok]
      constructor
      · rintro ⟨rfl, hstatus⟩
        exact ⟨hlast, hwhole, hstatus⟩
      · rintro ⟨h, -, hstatus⟩
        exact ⟨hlast.unique h, hstatus⟩
    · rw [send_of_broken hlast hfault]
      refine iff_of_false (by simp) ?_
      rintro ⟨h, hwhole, -⟩
      obtain rfl := hlast.unique h
      simp [Answer.isWhole, hfault] at hwhole
  · rw [hsend]
    exact iff_of_false (by simp) fun h => hnone answer h.1

end Client

end Http

-- ---------------------------------------------------------------------------
-- Operations
-- ---------------------------------------------------------------------------

open Http (Answer Client LastAnswer Method)

variable {α : Type} {read : Answer → Except ProtocolError α} {c : Client} {method : Method}
  {path : String} {body : Option String} {accepted : List Nat} {answer : Answer}

/-- Reading a page does not change the client. -/
theorem Call.reading_snd (read : Answer → Except ProtocolError α) (reply : Http.Reply Answer) :
    (Call.reading read reply).2 = reply.2 := by
  obtain ⟨outcome, c⟩ := reply
  cases outcome with
  | error e => rfl
  | ok answer => cases h : read answer <;> simp [Call.reading, h]

/-- What an operation makes of an accepted answer is what it reads from it. -/
theorem Call.reading_of_accepted
    (h : LastAnswer c.network (Call.reading read (c.send method path body accepted)).2.network
      answer)
    (hwhole : answer.isWhole = true) (hstatus : answer.status ∈ accepted) :
    (Call.reading read (c.send method path body accepted)).1 =
      (read answer).mapError .protocol := by
  rw [Call.reading_snd] at h
  have hok := Client.send_eq_ok.mpr ⟨h, hwhole, hstatus⟩
  obtain ⟨⟨outcome, after⟩, hsend⟩ : ∃ r, c.send method path body accepted = r := ⟨_, rfl⟩
  rw [hsend] at hok ⊢
  obtain rfl : outcome = .ok answer := hok
  simp only [Call.reading]
  cases read answer <;> rfl

/-- An operation reads nothing from an answer whose body breaks off. -/
theorem Call.reading_of_broken {message : String}
    (h : LastAnswer c.network (Call.reading read (c.send method path body accepted)).2.network
      answer)
    (hbroken : answer.bodyFault? = some message) :
    (Call.reading read (c.send method path body accepted)).1 =
      .error (.ofHttp (.transport message)) := by
  rw [Call.reading_snd] at h
  have hfailed := Client.send_of_broken h hbroken
  obtain ⟨⟨outcome, after⟩, hsend⟩ : ∃ r, c.send method path body accepted = r := ⟨_, rfl⟩
  rw [hsend] at hfailed ⊢
  obtain rfl : outcome = .error (.transport message) := hfailed
  rfl

/-- An operation gives what it reads from the last answer, if this is whole and its status is
accepted. -/
theorem Call.reading_eq_ok {a : α} :
    (Call.reading read (c.send method path body accepted)).1 = .ok a ↔
      ∃ answer, LastAnswer c.network
          (Call.reading read (c.send method path body accepted)).2.network answer ∧
        answer.isWhole = true ∧ answer.status ∈ accepted ∧ read answer = .ok a := by
  -- what is read is the last answer in both directions, as the reading makes no request
  constructor
  · intro hok
    obtain ⟨⟨outcome, after⟩, hsend⟩ : ∃ r, c.send method path body accepted = r := ⟨_, rfl⟩
    cases outcome with
    | error e => simp [hsend, Call.reading] at hok
    | ok answer =>
      obtain ⟨hlast, hwhole, hstatus⟩ := Client.send_eq_ok.mp (congrArg Prod.fst hsend)
      rw [← Call.reading_snd read] at hlast
      rw [Call.reading_of_accepted hlast hwhole hstatus] at hok
      refine ⟨answer, hlast, hwhole, hstatus, ?_⟩
      cases hread : read answer with
      | error e =>
        rw [hread] at hok
        cases hok
      | ok a' =>
        rw [hread] at hok
        exact congrArg Except.ok (Except.ok.inj hok)
  · rintro ⟨answer, hlast, hwhole, hstatus, hread⟩
    rw [Call.reading_of_accepted hlast hwhole hstatus, hread]
    rfl

end RobotWeb
