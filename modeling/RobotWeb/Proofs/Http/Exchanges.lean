import RobotWeb.Proofs.Http.Request
import RobotWeb.Proofs.Url.Path

/-!
# What requests exchange

A request goes over the network once or, as long as the controller is busy, several times. Its last
exchange decides what comes of it.

An answer is one as soon as its headers have arrived: its cookies count then, and the controller has
decided. Only a whole answer is handed to the caller; one whose body breaks off is a failed
transport for him.

* `Network.Talk`        — the exchanges between two states of the network.
* `wholeAnswer`         — what a caller gets of an outcome.
* `Client.attempt_eq`   — one attempt, by the outcome of its exchange.
* `Client.Sent`         — the exchanges that one request to a URL consists of, and its result.
* `Requested`           — the same for a path, which may have no URL.
* `Client.send_requested` — every request consists of such exchanges.
* `Requested.accepted_cases` — what a request hands over is accepted once or not at all.
* `Client.subscribe_requested`, `updateSubscription_requested`, `unsubscribe_requested` — the
  requests that are made for a subscription group.
-/

namespace RobotWeb.Http

-- ---------------------------------------------------------------------------
-- Exchanges
-- ---------------------------------------------------------------------------

/-- A request, and what came of it. -/
structure Exchange where
  request : Request
  outcome : Outcome

/-- The exchanges that took the network from one state to another. -/
inductive Network.Talk : Network → List Exchange → Network → Prop where
  | silent (n : Network) : Talk n [] n
  | exchange {n last : Network} {rest : List Exchange} (request : Request)
      (h : Talk (n.exchange request).2 rest last) :
      Talk n (⟨request, (n.exchange request).1⟩ :: rest) last

namespace Network

variable {n n' n'' : Network} {talk talk' : List Exchange}

/-- Every exchange sends one request. -/
theorem requests_exchange (n : Network) (request : Request) :
    (n.exchange request).2.requests = n.requests ++ [request] := by
  unfold exchange
  split <;> rfl

theorem Talk.one (n : Network) (request : Request) :
    n.Talk [⟨request, (n.exchange request).1⟩] (n.exchange request).2 :=
  .exchange request (.silent _)

/-- Exchanges are put together. -/
theorem Talk.append (h : n.Talk talk n') (h' : n'.Talk talk' n'') :
    n.Talk (talk ++ talk') n'' := by
  induction h with
  | silent => exact h'
  | exchange request _ ih => exact .exchange request (ih h')

/-- The requests of the exchanges are what was sent, in this order. -/
theorem Talk.requests (h : n.Talk talk n') :
    n'.requests = n.requests ++ talk.map (·.request) := by
  induction h with
  | silent => simp
  | exchange request _ ih => simp [ih, requests_exchange]

/-- What was exchanged is told by the network before it and the requests after it. -/
theorem Talk.unique {last : Network} (h : n.Talk talk n') (h' : n.Talk talk' last)
    (hrequests : n'.requests = last.requests) : talk = talk' := by
  induction h generalizing talk' with
  | silent n =>
    rw [h'.requests, List.self_eq_append_right, List.map_eq_nil_iff] at hrequests
    exact hrequests.symm
  | exchange request hrest ih =>
    cases h' with
    | silent => simp [hrest.requests, requests_exchange] at hrequests
    | exchange request' hrest' =>
      obtain rfl : request = request' := by
        have hboth := hrequests
        rw [hrest.requests, hrest'.requests, requests_exchange, requests_exchange,
          List.append_assoc, List.append_assoc, List.append_cancel_left_eq] at hboth
        exact (List.cons.inj hboth).1
      rw [ih hrest' hrequests]

end Network

-- ---------------------------------------------------------------------------
-- Attempts
-- ---------------------------------------------------------------------------

/-- The answer that an outcome brings, if it is whole. For the caller the transport has failed if
the body breaks off. -/
def wholeAnswer : Outcome → Except HttpError Answer
  | .error message => .error (.transport message)
  | .ok answer =>
    match answer.bodyFault? with
    | some message => .error (.transport message)
    | none => .ok answer

/-- A whole answer is handed over as it is. -/
theorem wholeAnswer_of_isWhole {answer : Answer} (h : answer.isWhole = true) :
    wholeAnswer (.ok answer) = .ok answer := by
  rw [Answer.isWhole, Option.isNone_iff_eq_none] at h
  simp only [wholeAnswer, h]

/-- An answer whose body breaks off is a failed transport. -/
theorem wholeAnswer_of_broken {answer : Answer} {message : String}
    (h : answer.bodyFault? = some message) :
    wholeAnswer (.ok answer) = .error (.transport message) := by
  simp only [wholeAnswer, h]

/-- An answer is handed over or turned into a failed transport, by whether it is whole. -/
theorem wholeAnswer_cases (answer : Answer) :
    (answer.isWhole = true ∧ wholeAnswer (.ok answer) = .ok answer) ∨
      ∃ message, answer.bodyFault? = some message ∧
        wholeAnswer (.ok answer) = .error (.transport message) := by
  cases hfault : answer.bodyFault? with
  | none =>
    have hwhole : answer.isWhole = true := by rw [Answer.isWhole, hfault, Option.isNone_none]
    exact .inl ⟨hwhole, wholeAnswer_of_isWhole hwhole⟩
  | some message => exact .inr ⟨message, rfl, wholeAnswer_of_broken hfault⟩

/-- What is handed over is the answer that has come, and it is whole. -/
theorem wholeAnswer_eq_ok {outcome : Outcome} {answer : Answer} :
    wholeAnswer outcome = .ok answer ↔ outcome = .ok answer ∧ answer.isWhole = true := by
  constructor
  · intro h
    cases outcome with
    | error message => cases h
    | ok answer' =>
      rcases wholeAnswer_cases answer' with ⟨hwhole, hsame⟩ | ⟨message, -, hbroken⟩
      · rw [hsame] at h
        obtain rfl := Except.ok.inj h
        exact ⟨rfl, hwhole⟩
      · rw [hbroken] at h
        cases h
  · rintro ⟨rfl, hwhole⟩
    exact wholeAnswer_of_isWhole hwhole

/-- A whole answer says that the controller is busy. -/
def SaysBusy (outcome : Outcome) : Prop :=
  ∃ answer, wholeAnswer outcome = .ok answer ∧ answer.status = Client.busy

/-- The controller was asked this and has answered with one of the statuses. It has accepted then,
whether or not the body of its answer arrives. -/
def Exchange.isAccepted (e : Exchange) (method : Method) (url? : Option Url)
    (statuses : List Nat) : Bool :=
  e.request.method = method && some e.request.url = url? &&
    match e.outcome with
    | .ok answer => statuses.contains answer.status
    | .error _ => false

/-- The exchange has brought a whole answer. -/
def Exchange.isWhole (e : Exchange) : Bool :=
  (wholeAnswer e.outcome).isOk

/-- The jar after the cookies of an answer, whether or not its body has arrived. -/
def CookieJar.hear (jar : CookieJar) : Outcome → CookieJar
  | .error _ => jar
  | .ok answer => jar.storeAll answer.setCookies

namespace Client

/-- The request of an attempt. -/
def request (c : Client) (method : Method) (url : Url) (body : Option String) : Request :=
  ⟨method, url, body, c.authorization, c.cookieHeader?⟩

/-- The client after an exchange. -/
def heard (c : Client) (request : Request) : Client :=
  { c with
    network := (c.network.exchange request).2
    jar := c.jar.hear (c.network.exchange request).1 }

/-- An attempt is one exchange. -/
theorem attempt_eq (c : Client) (method : Method) (url : Url) (body : Option String) :
    c.attempt method url body =
      (wholeAnswer (c.network.exchange (c.request method url body)).1,
        c.heard (c.request method url body)) := by
  obtain ⟨⟨outcome, network⟩, hx⟩ :
      ∃ r, c.network.exchange (c.request method url body) = r := ⟨_, rfl⟩
  unfold attempt heard
  rw [hx]
  have hx' := hx
  unfold request at hx'
  simp only [hx']
  cases outcome with
  | error message => rfl
  | ok answer =>
    cases hf : answer.bodyFault? <;> simp [wholeAnswer, CookieJar.hear, hf]

-- ---------------------------------------------------------------------------
-- Requests
-- ---------------------------------------------------------------------------

section

variable (c : Client) (method : Method) (url : Url) (path : String) (body : Option String)
  (accepted : List Nat)

/-- A busy answer is not judged as long as there is patience. -/
theorem sendTo_of_busy {delay : Duration} {rest : List Duration}
    (h : SaysBusy (c.network.exchange (c.request method url body)).1) :
    c.sendTo method url path body accepted (delay :: rest) =
      ((c.heard (c.request method url body)).note .warn "controller busy, retrying").sendTo
        method url path body accepted rest := by
  obtain ⟨answer, hwhole, hstatus⟩ := h
  rw [sendTo, attempt_eq]
  simp only [hwhole, hstatus, if_true]

/-- Any other outcome, and every one when there is no patience left, is judged. -/
theorem sendTo_of_done {backoff : List Duration}
    (h : backoff = [] ∨ ¬ SaysBusy (c.network.exchange (c.request method url body)).1) :
    c.sendTo method url path body accepted backoff =
      (wholeAnswer (c.network.exchange (c.request method url body)).1 >>=
          judge method path accepted,
        c.heard (c.request method url body)) := by
  unfold sendTo
  rw [attempt_eq]
  cases hwhole : wholeAnswer (c.network.exchange (c.request method url body)).1 with
  | error e => rfl
  | ok answer =>
    dsimp only
    split
    · rename_i hstatus
      rcases h with rfl | h
      · rfl
      · exact absurd ⟨answer, hwhole, hstatus⟩ h
    · rfl

/-- The exchanges of one request with its result: the same request is made in each of them, all but
the last one find the controller busy, and there are no more than there was patience for. -/
structure Sent (tries : Nat) (busies : List Exchange) (last : Exchange)
    (result : Except HttpError Answer) : Prop where
  same : ∀ e ∈ busies ++ [last],
    e.request.method = method ∧ e.request.url = url ∧ e.request.body = body
  busy : ∀ e ∈ busies, SaysBusy e.outcome
  length : busies.length ≤ tries
  done : busies.length < tries → ¬ SaysBusy last.outcome
  result : result = wholeAnswer last.outcome >>= judge method path accepted

/-- A request consists of one exchange after each busy answer, as long as there is patience. -/
theorem sendTo_sent (backoff : List Duration) :
    ∃ busies last,
      c.network.Talk (busies ++ [last])
        (c.sendTo method url path body accepted backoff).2.network ∧
      Sent method url path body accepted backoff.length busies last
        (c.sendTo method url path body accepted backoff).1 := by
  -- over the delays: each busy answer takes one of them
  induction backoff generalizing c with
  | nil =>
    rw [sendTo_of_done (h := .inl rfl)]
    exact ⟨[], _, .one _ (c.request method url body), by simp [request], by simp, Nat.le_refl 0,
      fun h => absurd h (Nat.lt_irrefl 0), rfl⟩
  | cons delay rest ih =>
    by_cases hbusy : SaysBusy (c.network.exchange (c.request method url body)).1
    · rw [sendTo_of_busy (h := hbusy)]
      obtain ⟨busies, last, htalk, hsent⟩ :=
        ih ((c.heard (c.request method url body)).note .warn "controller busy, retrying")
      refine ⟨⟨_, _⟩ :: busies, last, .exchange (c.request method url body) htalk, ?_, ?_,
        Nat.succ_le_succ hsent.length, fun h => hsent.done (Nat.lt_of_succ_lt_succ h),
        hsent.result⟩
      · exact List.forall_mem_cons.mpr ⟨⟨rfl, rfl, rfl⟩, hsent.same⟩
      · exact List.forall_mem_cons.mpr ⟨hbusy, hsent.busy⟩
    · rw [sendTo_of_done (h := .inr hbusy)]
      exact ⟨[], _, .one _ (c.request method url body), by simp [request], by simp,
        Nat.zero_le _, fun _ => hbusy, rfl⟩

end

end Client

/-- The exchanges of one request of a client with these options, and its result. There are none if
the path has no URL. -/
inductive Requested (options : Options) (method : Method) (path : String) (body : Option String)
    (accepted : List Nat) : List Exchange → Except HttpError Answer → Prop where
  | unsent {fault : Url.Fault} (hurl : options.baseUrl.join path = .error fault) :
      Requested options method path body accepted [] (.error (.invalidUrl path fault.message))
  | sent {url : Url} {busies : List Exchange} {last : Exchange} {result : Except HttpError Answer}
      (hurl : options.baseUrl.join path = .ok url)
      (h : Client.Sent method url path body accepted options.retryBackoff.length busies last
        result) :
      Requested options method path body accepted (busies ++ [last]) result

/-- Every request consists of such exchanges. -/
theorem Client.send_requested (c : Client) (method : Method) (path : String) (body : Option String)
    (accepted : List Nat) :
    ∃ talk, c.network.Talk talk (c.send method path body accepted).2.network ∧
      Requested c.options method path body accepted talk
        (c.send method path body accepted).1 := by
  unfold send resolve
  cases hurl : c.options.baseUrl.join path with
  | error fault => exact ⟨[], .silent _, .unsent hurl⟩
  | ok url =>
    obtain ⟨busies, last, htalk, hsent⟩ :=
      c.sendTo_sent method url path body accepted c.options.retryBackoff
    exact ⟨busies ++ [last], htalk, .sent hurl hsent⟩

-- ---------------------------------------------------------------------------
-- What the controller accepts
-- ---------------------------------------------------------------------------

namespace Requested

variable {options : Options} {method : Method} {path : String} {body : Option String}
  {accepted : List Nat} {talk : List Exchange} {result : Except HttpError Answer}

/-- A request makes exchanges of its own kind only. -/
theorem method_eq (h : Requested options method path body accepted talk result) :
    ∀ e ∈ talk, e.request.method = method := by
  cases h with
  | unsent => simp
  | sent _ hsent => exact fun e he => (hsent.same e he).1

/-- All exchanges of a request are with the URL of its path. -/
theorem url_eq (h : Requested options method path body accepted talk result) :
    ∀ e ∈ talk, options.baseUrl.join path = .ok e.request.url := by
  cases h with
  | unsent => simp
  | sent hurl hsent =>
    intro e he
    rw [hurl, (hsent.same e he).2.1]

/-- A request whose path has a URL is sent. -/
theorem ne_nil {url : Url} (h : Requested options method path body accepted talk result)
    (hurl : options.baseUrl.join path = .ok url) : talk ≠ [] := by
  cases h with
  | unsent hnone =>
    rw [hurl] at hnone
    cases hnone
  | sent => simp

/-- The controller accepts what a request hands over once or not at all. If it accepts, the caller
gets its answer as far as this is whole; and else the request has failed. -/
theorem accepted_cases (h : Requested options method path body accepted talk result)
    (hbusy : Client.busy ∉ accepted) :
    (∃ e, talk.filter (·.isAccepted method (options.baseUrl.join path).toOption accepted) = [e] ∧
      e.request.body = body ∧ result = wholeAnswer e.outcome) ∨
    (talk.filter (·.isAccepted method (options.baseUrl.join path).toOption accepted) = [] ∧
      ∃ cause, result = .error cause) := by
  cases h with
  | unsent => exact .inr ⟨rfl, _, rfl⟩
  | @sent url busies last _ hurl hsent =>
    obtain ⟨hmethod, hurl', hbody⟩ := hsent.same last (by simp)
    have hresult := hsent.result
    -- a busy answer is not accepted, so that only the last exchange is left to look at
    have hbusies : busies.filter (·.isAccepted method (some url) accepted) = [] := by
      refine List.filter_eq_nil_iff.mpr fun e he => ?_
      obtain ⟨answer, hwhole, hstatus⟩ := hsent.busy e he
      simp [Exchange.isAccepted, (wholeAnswer_eq_ok.mp hwhole).1, hstatus, hbusy]
    have hfilter (accepts : Bool) (h : last.isAccepted method (some url) accepted = accepts) :
        (busies ++ [last]).filter (·.isAccepted method (some url) accepted) =
          if accepts then [last] else [] := by
      rw [List.filter_append, hbusies, List.nil_append, List.filter_cons, List.filter_nil, h]
    rw [hurl, Except.toOption]
    cases houtcome : last.outcome with
    | error message =>
      rw [houtcome] at hresult
      exact .inr ⟨hfilter false (by simp [Exchange.isAccepted, houtcome]), _, hresult⟩
    | ok answer =>
      rw [houtcome] at hresult
      have hbroken (message : String)
          (h : wholeAnswer (.ok answer) = .error (.transport message)) :
          result = .error (.transport message) := by
        rw [hresult, h]
        rfl
      -- the controller has accepted by its status; what the caller gets depends on the body as well
      by_cases hstatus : answer.status ∈ accepted
      · refine .inl ⟨last, hfilter true ?_, hbody, ?_⟩
        · simp [Exchange.isAccepted, hmethod, hurl', houtcome, hstatus]
        · rw [houtcome]
          rcases wholeAnswer_cases answer with ⟨-, hwhole⟩ | ⟨message, -, h⟩
          · rw [hresult, hwhole]
            exact if_pos (List.contains_iff_mem.mpr hstatus)
          · rw [hbroken message h, h]
      · refine .inr ⟨hfilter false (by simp [Exchange.isAccepted, houtcome, hstatus]), ?_⟩
        rcases wholeAnswer_cases answer with ⟨-, hwhole⟩ | ⟨message, -, h⟩
        · rw [hresult, hwhole]
          exact ⟨_, if_neg (by simpa using hstatus)⟩
        · exact ⟨_, hbroken message h⟩

end Requested

-- ---------------------------------------------------------------------------
-- Subscription groups
-- ---------------------------------------------------------------------------

namespace Client

/-- A group is asked for by one request, and read off its answer. -/
theorem subscribe_requested (c : Client) (body : String) :
    ∃ talk result, c.network.Talk talk (c.subscribe body).2.network ∧
      Requested c.options .post subscriptionPath (some body) [201] talk result ∧
      (c.subscribe body).1 = result >>= groupOfAnswer := by
  obtain ⟨talk, htalk, hrequested⟩ := c.send_requested .post subscriptionPath (some body) [201]
  refine ⟨talk, _, ?_, hrequested, ?_⟩
  · unfold subscribe
    split <;> rename_i hsend <;> rwa [hsend] at htalk
  · unfold subscribe
    split <;> rename_i hsend <;> rw [hsend] <;> rfl

/-- The resources of a group are replaced by one request. -/
theorem updateSubscription_requested (c : Client) (id body : String) :
    ∃ talk result, c.network.Talk talk (c.updateSubscription id body).2.network ∧
      Requested c.options .put (groupPath id) (some body) done talk result ∧
      (c.updateSubscription id body).1 = result.map fun _ => () := by
  obtain ⟨talk, htalk, hrequested⟩ := c.send_requested .put (groupPath id) (some body) done
  refine ⟨talk, _, ?_, hrequested, Reply.discard_fst _⟩
  rw [updateSubscription, Reply.discard_snd]
  exact htalk

/-- A group is deleted by one request. -/
theorem unsubscribe_requested (c : Client) (id : String) :
    ∃ talk result, c.network.Talk talk (c.unsubscribe id).2.network ∧
      Requested c.options .delete (groupPath id) none done talk result ∧
      (c.unsubscribe id).1 = result.map fun _ => () := by
  obtain ⟨talk, htalk, hrequested⟩ := c.send_requested .delete (groupPath id) none done
  refine ⟨talk, _, ?_, hrequested, Reply.discard_fst _⟩
  rw [unsubscribe, Reply.discard_snd]
  exact htalk

/-- If groups can be asked for, each of them has a URL. -/
theorem join_groupPath {base url : Url} (h : base.join subscriptionPath = .ok url) (id : String) :
    ∃ url, base.join (groupPath id) = .ok url := by
  have hsubscription : subscriptionPath.toList = '/' :: 's' :: "ubscription".toList := rfl
  have hgroup : (groupPath id).toList = '/' :: 's' :: ("ubscription/".toList ++ id.toList) := by
    simp [groupPath, subscriptionPath]
  exact (Url.join_rooted hgroup).mpr ((Url.join_rooted hsubscription).mp ⟨url, h⟩)

end Client

end RobotWeb.Http
