import RobotWeb.Proofs.Http.Clones

/-!
# Retries while the controller is busy

A request is repeated after each busy answer as long as the backoff has entries, and then the last
outcome alone decides what comes of it. Every request starts with the whole backoff, whatever was
called before it.

* `Network.outcomeAt`         — what the requests to come will be answered, one by one.
* `Network.busyAhead`         — how many busy answers come first.
* `Client.verdict`            — what the last outcome makes of a request.
* `Client.sendTo_attempts`    — the attempts of one request.
* `Client.options_performAll` — no call changes how often the next one retries.
* `Client.send_retries_while_busy` — the attempts and the result of every request.
-/

namespace RobotWeb.Http

-- ---------------------------------------------------------------------------
-- Outcomes to come
-- ---------------------------------------------------------------------------

/-- The part of a request that its caller has chosen. -/
def Request.asked (r : Request) : Method × Url × Option String :=
  (r.method, r.url, r.body)

instance (outcome : Outcome) : Decidable (SaysBusy outcome) :=
  match h : wholeAnswer outcome with
  | .ok answer =>
    decidable_of_iff (answer.status = Client.busy) <| by
      unfold SaysBusy
      simp [h]
  | .error e =>
    isFalse <| by
      unfold SaysBusy
      simp [h]

namespace Network

variable {n n' : Network} {talk : List Exchange}

/-- The outcome of the next request but `i`. When none is left, nothing answers any more. -/
def outcomeAt (n : Network) (i : Nat) : Outcome :=
  n.outcomes.getD i (.error unreachable)

/-- How many busy answers stand at the front of the outcomes to come. -/
def busyAhead (n : Network) : Nat :=
  (n.outcomes.takeWhile fun outcome => decide (SaysBusy outcome)).length

/-- A busy answer whose body breaks off counts as a failed transport. -/
example :
    let broken : Answer := { status := 503, bodyFault? := some "connection reset" }
    Network.busyAhead { outcomes := [.ok { status := 503 }, .ok broken, .ok { status := 503 }] } =
      1 := by
  decide

theorem not_saysBusy_error (message : String) : ¬ SaysBusy (.error message) := by
  rintro ⟨answer, hwhole, -⟩
  cases hwhole

/-- An exchange brings the first of the outcomes to come. -/
theorem exchange_fst (n : Network) (request : Request) :
    (n.exchange request).1 = n.outcomeAt 0 := by
  unfold exchange outcomeAt
  cases n.outcomes <;> rfl

/-- It uses up this outcome and no other one. -/
theorem outcomes_exchange (n : Network) (request : Request) :
    (n.exchange request).2.outcomes = n.outcomes.tail := by
  unfold exchange
  cases n.outcomes <;> rfl

/-- The outcomes to come move up by one. -/
theorem outcomeAt_exchange (n : Network) (request : Request) (i : Nat) :
    (n.exchange request).2.outcomeAt i = n.outcomeAt (i + 1) := by
  unfold outcomeAt
  rw [outcomes_exchange]
  cases n.outcomes <;> simp

/-- The exchanges have the outcomes that were to come, and leave the others. -/
theorem Talk.outcomes (h : n.Talk talk n') :
    talk.map (·.outcome) = (List.range talk.length).map n.outcomeAt ∧
      n'.outcomes = n.outcomes.drop talk.length := by
  induction h with
  | silent => simp
  | @exchange n last rest request hrest ih =>
    obtain ⟨houtcomes, hleft⟩ := ih
    constructor
    · rw [List.length_cons, List.range_succ_eq_map, List.map_cons, List.map_cons, houtcomes,
        List.map_map, exchange_fst]
      congr 1
      exact List.map_congr_left fun i _ => outcomeAt_exchange n request i
    · rw [hleft, outcomes_exchange, List.length_cons, List.drop_tail]

/-- Busy answers that come one after the other from the start are all counted. -/
theorem le_busyAhead {k : Nat} (h : ∀ i < k, SaysBusy (n.outcomeAt i)) : k ≤ n.busyAhead := by
  obtain ⟨outcomes, requests⟩ := n
  unfold busyAhead outcomeAt at *
  -- over the outcomes to come; when none is left, the connection fails, which is no busy answer
  induction outcomes generalizing k with
  | nil =>
    rcases Nat.eq_zero_or_pos k with rfl | hk
    · exact Nat.zero_le _
    · exact absurd (h 0 hk) (not_saysBusy_error _)
  | cons outcome rest ih =>
    cases k with
    | zero => exact Nat.zero_le _
    | succ k =>
      have hfirst : SaysBusy outcome := h 0 (Nat.succ_pos k)
      have hrest : k ≤ _ := ih fun i hi => h (i + 1) (Nat.succ_lt_succ hi)
      rw [List.takeWhile_cons_of_pos (by simpa using hfirst), List.length_cons]
      exact Nat.succ_le_succ hrest

/-- An outcome that is no busy answer ends the count. -/
theorem busyAhead_le {k : Nat} (h : ¬ SaysBusy (n.outcomeAt k)) : n.busyAhead ≤ k := by
  obtain ⟨outcomes, requests⟩ := n
  unfold busyAhead outcomeAt at *
  induction outcomes generalizing k with
  | nil => exact Nat.zero_le _
  | cons outcome rest ih =>
    by_cases hfirst : SaysBusy outcome
    · cases k with
      | zero => exact absurd hfirst h
      | succ k =>
        have hrest : _ ≤ k := ih h
        rw [List.takeWhile_cons_of_pos (by simpa using hfirst), List.length_cons]
        exact Nat.succ_le_succ hrest
    · rw [List.takeWhile_cons_of_neg (by simpa using hfirst)]
      exact Nat.zero_le _

end Network

namespace Client

-- ---------------------------------------------------------------------------
-- One request
-- ---------------------------------------------------------------------------

/-- What the last outcome makes of a request: without a whole answer the transport has failed, and
an answer counts if its status is accepted. -/
def verdict (method : Method) (path : String) (accepted : List Nat) :
    Outcome → Except HttpError Answer
  | .error message => .error (.transport message)
  | .ok answer =>
    match answer.bodyFault? with
    | some message => .error (.transport message)
    | none =>
      if answer.status ∈ accepted then .ok answer
      else .error (.status method path answer.status answer.body)

/-- Judging what an outcome brings is its verdict. -/
theorem judge_wholeAnswer (method : Method) (path : String) (accepted : List Nat)
    (outcome : Outcome) :
    (wholeAnswer outcome >>= judge method path accepted) =
      verdict method path accepted outcome := by
  cases outcome with
  | error message => rfl
  | ok answer =>
    cases hfault : answer.bodyFault? with
    | some message =>
      simp only [wholeAnswer, verdict, hfault]
      rfl
    | none =>
      simp only [wholeAnswer, verdict, hfault]
      show judge method path accepted answer = _
      unfold judge
      simp only [List.contains_iff_mem]

/-- The exchanges of a request are told by what is to come: there is one for each busy answer at
the front that there is patience for, and one more. -/
theorem Sent.attempts {method : Method} {url : Url} {path : String} {body : Option String}
    {accepted : List Nat} {tries : Nat} {busies : List Exchange} {last : Exchange}
    {result : Except HttpError Answer} {n n' : Network}
    (h : Sent method url path body accepted tries busies last result)
    (htalk : n.Talk (busies ++ [last]) n') :
    busies.length = min n.busyAhead tries ∧ last.outcome = n.outcomeAt busies.length := by
  have houtcomes := htalk.outcomes.1
  rw [List.length_append, List.length_singleton, List.range_succ, List.map_append,
    List.map_append, List.map_singleton, List.map_singleton] at houtcomes
  obtain ⟨hbusies, hlast⟩ := List.append_inj' houtcomes rfl
  have hlast : last.outcome = n.outcomeAt busies.length := List.singleton_inj.mp hlast
  refine ⟨?_, hlast⟩
  -- the busy answers are at the front of what is to come
  have hfront : ∀ i < busies.length, SaysBusy (n.outcomeAt i) := by
    intro i hi
    have hmem : n.outcomeAt i ∈ busies.map (·.outcome) := by
      rw [hbusies]
      exact List.mem_map_of_mem (List.mem_range.mpr hi)
    obtain ⟨e, he, houtcome⟩ := List.mem_map.mp hmem
    exact houtcome ▸ h.busy e he
  have hcounted : busies.length ≤ n.busyAhead := Network.le_busyAhead hfront
  have hlength := h.length
  rcases Nat.lt_or_ge busies.length tries with hlt | hge
  · -- patience is left, so the last outcome was no busy answer
    have hdone : ¬ SaysBusy (n.outcomeAt busies.length) := hlast ▸ h.done hlt
    have hend := Network.busyAhead_le hdone
    omega
  · omega

/-- One request to a URL: its attempts, what they leave of the outcomes to come, and its result. -/
theorem sendTo_attempts (c : Client) (method : Method) (url : Url) (path : String)
    (body : Option String) (accepted : List Nat) (backoff : List Duration) :
    let tries := min c.network.busyAhead backoff.length + 1
    let after := (c.sendTo method url path body accepted backoff).2
    (∃ sent, after.network.requests = c.network.requests ++ sent ∧
      sent.map Request.asked = List.replicate tries (method, url, body)) ∧
    after.network.outcomes = c.network.outcomes.drop tries ∧
    (c.sendTo method url path body accepted backoff).1 =
      verdict method path accepted (c.network.outcomeAt (tries - 1)) := by
  intro tries after
  -- all is read off the exchanges of the request
  obtain ⟨busies, last, htalk, hsent⟩ := c.sendTo_sent method url path body accepted backoff
  obtain ⟨hbusies, hlast⟩ := hsent.attempts htalk
  have hlength : (busies ++ [last]).length = tries := by
    rw [List.length_append, List.length_singleton, hbusies]
  refine ⟨⟨_, htalk.requests, ?_⟩, ?_, ?_⟩
  · rw [List.eq_replicate_iff]
    refine ⟨by simpa using hlength, ?_⟩
    intro asked hasked
    rw [List.map_map] at hasked
    obtain ⟨e, he, rfl⟩ := List.mem_map.mp hasked
    obtain ⟨hmethod, hurl, hbody⟩ := hsent.same e he
    show (e.request.method, e.request.url, e.request.body) = _
    rw [hmethod, hurl, hbody]
  · rw [← hlength]
    exact htalk.outcomes.2
  · have hpast : tries - 1 = busies.length := by omega
    rw [hsent.result, judge_wholeAnswer, hlast, hpast]

-- ---------------------------------------------------------------------------
-- Request after request
-- ---------------------------------------------------------------------------

/-- The client after some calls, one after the other. -/
def performAll (c : Client) (calls : List Call) : Client :=
  calls.foldl (fun c call => (c.perform call).2) c

/-- No call changes how patient the next one is. -/
theorem options_perform (c : Client) (call : Call) : (c.perform call).2.options = c.options := by
  cases call with
  | send method path body accepted => exact options_send c method path body accepted
  | logout =>
    have h := options_send c .get "/logout" none done
    show c.logout.2.options = c.options
    unfold logout
    split <;> rename_i hc <;> simpa [hc] using h

/-- No call changes how often the next one retries. -/
theorem options_performAll (c : Client) (calls : List Call) :
    (c.performAll calls).options = c.options := by
  unfold performAll
  induction calls generalizing c with
  | nil => rfl
  | cons call rest ih => exact (ih _).trans (options_perform c call)

/-- **A request is retried while the controller is busy.** Whatever was called before, a path that
has no URL is refused without a request. Any other request is made once, and once more after each
of the busy answers that come first, up to the length of the whole backoff; so it ends even if the
controller stays busy for ever. Every attempt asks for the same, and no outcome beyond the last
attempt is used up. The last outcome decides: an answer is handed over if its status is accepted,
and else it is the failure. A failed transport is no busy answer, so that it ends the attempts.

The answers meant are whole ones: one whose body breaks off is a failed transport, even if its
headers say that the controller is busy. -/
theorem send_retries_while_busy (c : Client) (earlier : List Call) (method : Method)
    (path : String) (body : Option String) (accepted : List Nat) :
    let now := c.performAll earlier
    match c.options.baseUrl.join path with
    | .error fault =>
      now.send method path body accepted = (.error (.invalidUrl path fault.message), now)
    | .ok url =>
      let tries := min now.network.busyAhead c.options.retryBackoff.length + 1
      let after := (now.send method path body accepted).2
      (∃ sent, after.network.requests = now.network.requests ++ sent ∧
        sent.map Request.asked = List.replicate tries (method, url, body)) ∧
      after.network.outcomes = now.network.outcomes.drop tries ∧
      (now.send method path body accepted).1 =
        verdict method path accepted (now.network.outcomeAt (tries - 1)) := by
  intro now
  -- earlier calls use outcomes up but leave the options as they are
  have hoptions : now.options = c.options := options_performAll c earlier
  cases hurl : c.options.baseUrl.join path with
  | error fault =>
    show now.send method path body accepted = _
    unfold send resolve
    rw [hoptions, hurl]
  | ok url =>
    have hsend : now.send method path body accepted =
        now.sendTo method url path body accepted c.options.retryBackoff := by
      unfold send resolve
      rw [hoptions, hurl]
    show _ ∧ _ ∧ _
    rw [hsend]
    exact sendTo_attempts now method url path body accepted c.options.retryBackoff

end Client

end RobotWeb.Http
