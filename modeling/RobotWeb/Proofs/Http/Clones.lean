import Mathlib.Data.List.DropRight
import RobotWeb.Proofs.Http.Cookies
import RobotWeb.Proofs.Http.Exchanges

/-!
# Clones of a client

The clones of a client share its cookies, and each may be used by a thread of its own. A call on a
clone reads the cookies when it builds a request and changes them when an answer arrives; while the
controller is asked, the others go on. Here any number of clones take these steps in any order, and
what each request is answered is free.

* `Clones.Step`, `Clones.Reaches`    — one step of one clone, and any number of steps.
* `Clones.perform_alone`             — a call that is not interrupted does what it does on the
  client.
* `Clones.Told`                      — the invariant: the cookies are told by the history.
* `Clones.cookies_follow_answers`    — the `Cookie` header of every attempt.
-/

namespace RobotWeb.Http

-- ---------------------------------------------------------------------------
-- Calls
-- ---------------------------------------------------------------------------

/-- A call on a client or on one of its clones. -/
inductive Call where
  | send (method : Method) (path : String) (body : Option String) (accepted : List Nat)
  | logout

/-- What a call gives back. -/
inductive Result where
  | sent (outcome : Except HttpError Answer)
  | loggedOut (outcome : Except HttpError Unit)

/-- The client's session with the controller has ended. -/
def Result.endsSession : Result → Bool
  | .loggedOut (.ok ()) => true
  | _ => false

namespace Call

def method : Call → Method
  | send method .. => method
  | logout => .get

def path : Call → String
  | send _ path .. => path
  | logout => "/logout"

def body : Call → Option String
  | send _ _ body _ => body
  | logout => none

def accepted : Call → List Nat
  | send _ _ _ accepted => accepted
  | logout => Client.done

/-- What the call gives back when this came of its request. -/
def result : Call → Except HttpError Answer → Result
  | send .., outcome => .sent outcome
  | logout, outcome => .loggedOut (outcome.map fun _ => ())

end Call

/-- One call on a client. -/
def Client.perform (c : Client) : Call → Result × Client
  | .send method path body accepted =>
    (.sent (c.send method path body accepted).1, (c.send method path body accepted).2)
  | .logout => (.loggedOut c.logout.1, c.logout.2)

-- ---------------------------------------------------------------------------
-- Clones
-- ---------------------------------------------------------------------------

/-- What a clone is in the middle of. -/
inductive Activity where
  | idle
  /-- A request will be sent; after a busy answer it is sent again as long as `backoff` has
  entries. -/
  | ready (call : Call) (url : Url) (backoff : List Duration)
  /-- The request is under way. -/
  | waiting (call : Call) (url : Url) (backoff : List Duration)
  /-- The request is over; the call will return. -/
  | ending (call : Call) (outcome : Except HttpError Answer)

/-- What happens to the cookies: clone `i` builds a request with them, hears what came of one, or
returns from a call. -/
inductive JarEvent (ι : Type) where
  | sent (i : ι) (request : Request)
  | heard (i : ι) (outcome : Outcome)
  | returned (i : ι) (result : Result)

namespace JarEvent

variable {ι : Type}

def endsSession : JarEvent ι → Bool
  | returned _ result => result.endsSession
  | _ => false

/-- The cookies that an answer sets, whatever else it says. -/
def setCookies : JarEvent ι → List String
  | heard _ (.ok answer) => answer.setCookies
  | _ => []

end JarEvent

/-- What happens to the cookies when clone `i` makes an exchange. -/
def Exchange.events {ι : Type} (i : ι) (e : Exchange) : List (JarEvent ι) :=
  [.sent i e.request, .heard i e.outcome]

/-- The `Set-Cookie` headers since the last logout that has succeeded, or since the start. -/
def headersSince {ι : Type} (history : List (JarEvent ι)) : List String :=
  (history.rtakeWhile fun event => !event.endsSession).flatMap JarEvent.setCookies

/-- A logout that succeeds forgets the headers so far, and any other event adds its own. -/
theorem headersSince_concat {ι : Type} (history : List (JarEvent ι)) (event : JarEvent ι) :
    headersSince (history ++ [event]) =
      if event.endsSession then [] else headersSince history ++ event.setCookies := by
  unfold headersSince
  split
  · rename_i h
    rw [List.rtakeWhile_concat_neg _ _ _ (by simp [h])]
    rfl
  · rename_i h
    rw [List.rtakeWhile_concat_pos _ _ _ (by simpa using h)]
    simp

/-- Every request was built with the cookies that the headers before it had set. -/
def Followed {ι : Type} (history : List (JarEvent ι)) : Prop :=
  ∀ before i request after, history = before ++ .sent i request :: after →
    request.cookie = (CookieJar.storeAll {} (headersSince before)).header?

/-- A history stays faithful if the new event is, where it is an attempt. -/
theorem Followed.concat {ι : Type} {history : List (JarEvent ι)} {event : JarEvent ι}
    (h : Followed history)
    (hevent : ∀ i request, event = .sent i request →
      request.cookie = (CookieJar.storeAll {} (headersSince history)).header?) :
    Followed (history ++ [event]) := by
  intro before i request after heq
  rcases List.eq_nil_or_concat after with rfl | ⟨middle, last, rfl⟩
  · obtain ⟨rfl, hlast⟩ := List.append_inj' heq rfl
    exact hevent i request (List.cons.inj hlast).1
  · rw [List.concat_eq_append, ← List.cons_append, ← List.append_assoc] at heq
    exact h before i request middle (List.append_inj' heq rfl).1

/-- The clones of a client with the options and the cookies that they share, and what has happened
to the cookies, the first event first. -/
structure Clones (ι : Type) where
  options : Options
  jar : CookieJar := {}
  activity : ι → Activity := fun _ => .idle
  history : List (JarEvent ι) := []

namespace Clones

variable {ι : Type}

/-- The client as its clones share it. -/
def client (s : Clones ι) : Client :=
  { options := s.options, jar := s.jar }

/-- What a call begins with. -/
def opening (s : Clones ι) (call : Call) : Activity :=
  match s.client.resolve call.path with
  | .ok url => .ready call url s.options.retryBackoff
  | .error e => .ending call (.error e)

/-- What follows on an exchange. -/
def next (call : Call) (url : Url) (backoff : List Duration) (outcome : Outcome) : Activity :=
  match wholeAnswer outcome with
  | .error e => .ending call (.error e)
  | .ok answer =>
    let judged := Client.judge call.method call.path call.accepted answer
    if answer.status = Client.busy then
      match backoff with
      | _ :: rest => .ready call url rest
      | [] => .ending call judged
    else .ending call judged

def tell (s : Clones ι) (event : JarEvent ι) : Clones ι :=
  { s with history := s.history ++ [event] }

/-- A session that has ended leaves no cookies. -/
def forget (s : Clones ι) (result : Result) : Clones ι :=
  { s with jar := if result.endsSession then {} else s.jar }

/-- The cookies, and those of every request, are told by the history. -/
structure Told (s : Clones ι) : Prop where
  jar : s.jar = .storeAll {} (headersSince s.history)
  requests : Followed s.history

/-- An event that changes the jar as it tells keeps the invariant. -/
theorem Told.concat {s s' : Clones ι} (h : s.Told) (event : JarEvent ι)
    (hhistory : s'.history = s.history ++ [event])
    (hjar : s'.jar =
      if event.endsSession then {} else CookieJar.storeAll s.jar event.setCookies)
    (hevent : ∀ i request, event = .sent i request → request.cookie = s.jar.header?) :
    s'.Told where
  jar := by
    rw [hjar, hhistory, headersSince_concat, h.jar]
    split
    · rfl
    -- new headers are stored behind the old ones
    · rw [CookieJar.storeAll, CookieJar.storeAll, ← List.foldl_append]
      rfl
  requests := by
    rw [hhistory]
    refine h.requests.concat fun i request heq => ?_
    rw [hevent i request heq, h.jar]

variable [DecidableEq ι]

def become (s : Clones ι) (i : ι) (activity : Activity) : Clones ι :=
  { s with activity := fun j => if j = i then activity else s.activity j }

@[simp] theorem activity_become_self (s : Clones ι) (i : ι) (activity : Activity) :
    (s.become i activity).activity i = activity := by
  simp [become]

theorem activity_become_of_ne (s : Clones ι) {i j : ι} (h : j ≠ i) (activity : Activity) :
    (s.become i activity).activity j = s.activity j := by
  simp [become, h]

/-- One step of clone `i`. Each uses the shared cookies at most once. -/
inductive Step (i : ι) : Clones ι → Clones ι → Prop where
  | begin {s : Clones ι} (call : Call) (h : s.activity i = .idle) :
      Step i s (s.become i (s.opening call))
  | send {s : Clones ι} {call : Call} {url : Url} {backoff : List Duration}
      (h : s.activity i = .ready call url backoff) :
      Step i s ((s.tell (.sent i (s.client.request call.method url call.body))).become i
        (.waiting call url backoff))
  | hear {s : Clones ι} {call : Call} {url : Url} {backoff : List Duration} (outcome : Outcome)
      (h : s.activity i = .waiting call url backoff) :
      Step i s (({ s with jar := s.jar.hear outcome }.tell (.heard i outcome)).become i
        (next call url backoff outcome))
  | finish {s : Clones ι} {call : Call} {outcome : Except HttpError Answer}
      (h : s.activity i = .ending call outcome) :
      Step i s (((s.forget (call.result outcome)).tell (.returned i (call.result outcome))).become i
        .idle)

/-- Any number of steps, each by a clone of which `who` holds. -/
inductive Reaches (who : ι → Prop) : Clones ι → Clones ι → Prop where
  | refl (s : Clones ι) : Reaches who s s
  | step {s s' s'' : Clones ι} {i : ι} (h : Reaches who s s') (hi : who i) (hs : Step i s' s'') :
      Reaches who s s''

/-- No step of any clone breaks the invariant: by cases on what the clone is in the middle of. -/
theorem Told.step {s s' : Clones ι} {i : ι} (h : s.Told) (hs : Step i s s') : s'.Told := by
  cases hs with
  | begin call => exact ⟨h.jar, h.requests⟩
  | @send call url _ =>
    refine h.concat (.sent i (s.client.request call.method url call.body)) rfl rfl ?_
    rintro j request ⟨⟩
    rfl
  | hear outcome =>
    refine h.concat (.heard i outcome) rfl ?_ (by simp)
    cases outcome <;> rfl
  | @finish call outcome => exact h.concat (.returned i (call.result outcome)) rfl rfl (by simp)

/-- So it holds after any number of steps. -/
theorem Told.reaches {who : ι → Prop} {s s' : Clones ι} (h : s.Told) (hs : Reaches who s s') :
    s'.Told := by
  induction hs with
  | refl => exact h
  | step _ _ hstep ih => exact ih.step hstep

-- ---------------------------------------------------------------------------
-- A clone that is not interrupted
-- ---------------------------------------------------------------------------

/-- Clone `i` alone went from one state to the other, and this has happened to the cookies. -/
structure Alone (i : ι) (events : List (JarEvent ι)) (s s' : Clones ι) : Prop where
  reaches : Reaches (· = i) s s'
  options : s'.options = s.options
  others : ∀ j, j ≠ i → s'.activity j = s.activity j
  history : s'.history = s.history ++ events

section Alone

variable {s s' s'' : Clones ι} {i : ι} {events events' : List (JarEvent ι)} {c : Client}
  {call : Call} {url : Url}

theorem Reaches.trans {who : ι → Prop} (h : Reaches who s s') (h' : Reaches who s' s'') :
    Reaches who s s'' := by
  induction h' with
  | refl => exact h
  | step _ hi hs ih => exact .step ih hi hs

/-- Stretches without interruption are put together. -/
theorem Alone.trans (h : Alone i events s s') (h' : Alone i events' s' s'') :
    Alone i (events ++ events') s s'' where
  reaches := h.reaches.trans h'.reaches
  options := h'.options.trans h.options
  others j hj := (h'.others j hj).trans (h.others j hj)
  history := by rw [h'.history, h.history, List.append_assoc]

/-- One step is a stretch without interruption. -/
theorem Alone.of_step {middle : Clones ι} {activity : Activity}
    (hs : Step i s (middle.become i activity)) (hoptions : middle.options = s.options)
    (hactivity : middle.activity = s.activity) (hhistory : middle.history = s.history ++ events) :
    Alone i events s (middle.become i activity) where
  reaches := .step (.refl s) rfl hs
  options := hoptions
  others j hj := by rw [activity_become_of_ne _ hj, hactivity]
  history := hhistory

/-- A busy answer is followed by another attempt as long as there is patience. -/
theorem next_of_busy {outcome : Outcome} (h : SaysBusy outcome) (delay : Duration)
    (rest : List Duration) : next call url (delay :: rest) outcome = .ready call url rest := by
  obtain ⟨answer, hwhole, hstatus⟩ := h
  simp [next, hwhole, hstatus]

/-- Any other outcome, and every one when there is no patience left, decides the call. -/
theorem next_of_done {outcome : Outcome} {backoff : List Duration}
    (h : backoff = [] ∨ ¬ SaysBusy outcome) :
    next call url backoff outcome = .ending call
      (wholeAnswer outcome >>= Client.judge call.method call.path call.accepted) := by
  unfold next
  cases hwhole : wholeAnswer outcome with
  | error e => rfl
  | ok answer =>
    dsimp only
    split
    · rename_i hstatus
      rcases h with rfl | h
      · rfl
      · exact absurd ⟨answer, hwhole, hstatus⟩ h
    · rfl

/-- An attempt is sent with the cookies that the jar holds at this moment. -/
theorem send_alone {backoff : List Duration} (h : s.activity i = .ready call url backoff) :
    ∃ s', Alone i [.sent i (s.client.request call.method url call.body)] s s' ∧
      s'.activity i = .waiting call url backoff ∧ s'.jar = s.jar :=
  ⟨_, .of_step (.send h) rfl rfl rfl, activity_become_self _ i _, rfl⟩

/-- The cookies of an answer are stored before it is judged. -/
theorem hear_alone {backoff : List Duration} (h : s.activity i = .waiting call url backoff)
    (outcome : Outcome) :
    ∃ s', Alone i [.heard i outcome] s s' ∧
      s'.activity i = next call url backoff outcome ∧ s'.jar = s.jar.hear outcome :=
  ⟨_, .of_step (.hear outcome h) rfl rfl rfl, activity_become_self _ i _, rfl⟩

/-- An attempt without interruption is the one of the client. -/
theorem attempt_alone {backoff : List Duration} {request : Request} {outcome : Outcome}
    (h : s.activity i = .ready call url backoff) (hoptions : c.options = s.options)
    (hjar : c.jar = s.jar) (hrequest : c.request call.method url call.body = request)
    (houtcome : (c.network.exchange request).1 = outcome) :
    ∃ s', Alone i (Exchange.events i ⟨request, outcome⟩) s s' ∧
      s'.activity i = next call url backoff outcome ∧ s'.jar = (c.heard request).jar := by
  obtain rfl : s.client.request call.method url call.body = request := by
    simp [← hrequest, Client.request, client, Client.authorization, Client.cookieHeader?, hoptions,
      hjar]
  obtain ⟨middle, hsent, hwaiting, hkept⟩ := send_alone h
  obtain ⟨s', hheard, hnext, hstored⟩ := hear_alone hwaiting outcome
  refine ⟨s', hsent.trans hheard, hnext, ?_⟩
  rw [hstored, hkept, Client.heard, houtcome, hjar]

/-- A request without interruption makes the exchanges of the client and has its result. -/
theorem sendTo_alone {backoff : List Duration} {outcome : Except HttpError Answer} {c' : Client}
    (h : s.activity i = .ready call url backoff) (hoptions : c.options = s.options)
    (hjar : c.jar = s.jar)
    (hsent : c.sendTo call.method url call.path call.body call.accepted backoff = (outcome, c')) :
    ∃ s' talk, Alone i (talk.flatMap (Exchange.events i)) s s' ∧
      s'.activity i = .ending call outcome ∧ s'.jar = c'.jar ∧
      c.network.Talk talk c'.network := by
  -- over the delays, with one attempt of the clone and one of the client for each
  induction backoff generalizing s c with
  | nil =>
    obtain ⟨s', halone, hactivity, hheard⟩ := attempt_alone h hoptions hjar rfl rfl
    rw [next_of_done (.inl rfl)] at hactivity
    rw [Client.sendTo_of_done (h := .inl rfl)] at hsent
    obtain ⟨rfl, rfl⟩ := Prod.mk.inj hsent
    refine ⟨s', [_], ?_, hactivity, hheard, .one _ _⟩
    simpa using halone
  | cons delay rest ih =>
    obtain ⟨middle, halone, hactivity, hheard⟩ := attempt_alone h hoptions hjar rfl rfl
    by_cases hbusy : SaysBusy (c.network.exchange (c.request call.method url call.body)).1
    · rw [next_of_busy hbusy] at hactivity
      rw [Client.sendTo_of_busy (h := hbusy)] at hsent
      have hnoted : ((c.heard (c.request call.method url call.body)).note .warn
          "controller busy, retrying").options = middle.options :=
        hoptions.trans halone.options.symm
      obtain ⟨s', talk, hrest, hending, hkept, htalk⟩ := ih hactivity hnoted hheard.symm hsent
      exact ⟨s', _ :: talk, halone.trans hrest, hending, hkept, .exchange _ htalk⟩
    · rw [next_of_done (.inr hbusy)] at hactivity
      rw [Client.sendTo_of_done (h := .inr hbusy)] at hsent
      obtain ⟨rfl, rfl⟩ := Prod.mk.inj hsent
      refine ⟨middle, [_], ?_, hactivity, hheard, .one _ _⟩
      simpa using halone

/-- A call that ends gives its result, and a logout that succeeds empties the jar. -/
theorem finish_alone {outcome : Except HttpError Answer} (h : s.activity i = .ending call outcome) :
    ∃ s', Alone i [.returned i (call.result outcome)] s s' ∧ s'.activity i = .idle ∧
      s'.jar = (s.forget (call.result outcome)).jar :=
  ⟨_, .of_step (.finish h) rfl rfl rfl, activity_become_self _ i _, rfl⟩

/-- A call begins without a look at the jar. -/
theorem begin_alone (h : s.activity i = .idle) (call : Call) :
    ∃ s', Alone i [] s s' ∧ s'.activity i = s.opening call ∧ s'.jar = s.jar :=
  ⟨_, .of_step (.begin call h) rfl rfl (by simp), activity_become_self _ i _, rfl⟩

omit [DecidableEq ι] in
/-- A call sends its request and then forgets the cookies, if it has ended the session. -/
theorem perform_eq (c : Client) (call : Call) {outcome : Except HttpError Answer} {c' : Client}
    (hsent : c.send call.method call.path call.body call.accepted = (outcome, c')) :
    c.perform call = (call.result outcome,
      { c' with jar := if (call.result outcome).endsSession then {} else c'.jar }) := by
  cases call with
  | send method path body accepted =>
    rw [Client.perform, show c.send method path body accepted = (outcome, c') from hsent]
    rfl
  | logout =>
    rw [Client.perform, Client.logout,
      show c.send .get "/logout" none Client.done = (outcome, c') from hsent]
    cases outcome <;> rfl

/-- A call that is not interrupted does what it does on the client: it makes the same exchanges,
gives the same result and leaves the same cookies. -/
theorem perform_alone (hidle : s.activity i = .idle) (hoptions : c.options = s.options)
    (hjar : c.jar = s.jar) (call : Call) :
    ∃ s' talk,
      Alone i (talk.flatMap (Exchange.events i) ++ [.returned i (c.perform call).1]) s s' ∧
      s'.activity i = .idle ∧ s'.jar = (c.perform call).2.jar ∧
      c.network.Talk talk (c.perform call).2.network := by
  obtain ⟨⟨outcome, c'⟩, hsent⟩ :
      ∃ r, c.send call.method call.path call.body call.accepted = r := ⟨_, rfl⟩
  rw [perform_eq c call hsent]
  -- three stretches: the call begins, its request is made, and the call ends
  obtain ⟨begun, hbegin, hopening, hkept⟩ := begin_alone hidle call
  -- up to its end the call has the exchanges and the cookies of the request
  obtain ⟨ended, talk, hrequest, hending, hjar', htalk⟩ : ∃ ended talk,
      Alone i (talk.flatMap (Exchange.events i)) begun ended ∧
      ended.activity i = .ending call outcome ∧ ended.jar = c'.jar ∧
      c.network.Talk talk c'.network := by
    have hresolve : s.client.resolve call.path = c.resolve call.path := by
      simp [Client.resolve, client, hoptions]
    rw [opening, hresolve] at hopening
    unfold Client.send at hsent
    cases hurl : c.resolve call.path with
    | error e =>
      simp only [hurl] at hopening hsent
      obtain ⟨rfl, rfl⟩ := Prod.mk.inj hsent
      exact ⟨begun, [], ⟨.refl _, rfl, fun _ _ => rfl, by simp⟩, hopening,
        hkept.trans hjar.symm, .silent _⟩
    | ok url =>
      simp only [hurl] at hopening hsent
      rw [← hoptions] at hopening
      exact sendTo_alone hopening (hoptions.trans hbegin.options.symm)
        (hjar.trans hkept.symm) hsent
  obtain ⟨s', hfinish, hidle', hforget⟩ := finish_alone hending
  refine ⟨s', talk, ?_, hidle', ?_, htalk⟩
  · simpa using (hbegin.trans hrequest).trans hfinish
  · rw [hforget, forget, hjar']

end Alone

-- ---------------------------------------------------------------------------
-- Every run
-- ---------------------------------------------------------------------------

/-- **Cookies follow the answers.** Whatever the clones of a client call in whatever order, and
whatever they are answered, the `Cookie` header of every attempt is the one that the `Set-Cookie`
headers call for that have arrived since the last logout that succeeded, and so is the one of a
stream that is opened. The clones do what the client does: a call that no other one interrupts makes
the same exchanges, gives the same result and leaves the same cookies.

An answer is one here as soon as its headers have arrived: its cookies count even if its body breaks
off and its caller is told that the transport has failed. -/
theorem cookies_follow_answers {options : Options} {s : Clones ι}
    (hs : Reaches (fun _ => True) { options } s) :
    (∀ before i request after, s.history = before ++ .sent i request :: after →
      request.cookie = (CookieJar.storeAll {} (headersSince before)).header? ∧
      Carries request.cookie (headersSince before)) ∧
    Carries s.client.cookieHeader? (headersSince s.history) ∧
    ∀ i (c : Client) (call : Call), s.activity i = .idle → c.options = s.options →
      c.jar = s.jar → ∃ s' talk,
        Alone i (talk.flatMap (Exchange.events i) ++ [.returned i (c.perform call).1]) s s' ∧
        s'.activity i = .idle ∧ s'.jar = (c.perform call).2.jar ∧
        c.network.Talk talk (c.perform call).2.network := by
  -- the invariant: the jar, and each header when it was sent, is what the history tells
  have hfresh : Told ({ options } : Clones ι) := by
    refine ⟨rfl, fun before i request after heq => ?_⟩
    simp at heq
  have htold := hfresh.reaches hs
  refine ⟨fun before i request after heq => ?_, ?_,
    fun i c call hidle hoptions hjar => perform_alone hidle hoptions hjar call⟩
  · have hcookie := htold.requests before i request after heq
    exact ⟨hcookie, hcookie ▸ CookieJar.carries _⟩
  · rw [Client.cookieHeader?, client, htold.jar]
    exact CookieJar.carries _

/-- A busy answer to one clone sets a cookie, and the other one sends it. -/
theorem cookie_of_busy_answer :
    let baseUrl : Url := ⟨"https", some { host := .name "robot" }, .segments [""], none, none⟩
    let patience := Duration.ofMilliseconds 1000
    let options : Options :=
      { baseUrl, connectTimeout := patience, readTimeout := patience, writeTimeout := patience }
    ∃ (s : Clones Bool) (first second : Request),
      Reaches (fun _ => True) { options } s ∧
      s.history = [.sent false first,
        .heard false (.ok { status := 503, setCookies := ["id = 1; Path=/", "=2"] }),
        .sent true second] ∧
      first.cookie = none ∧ second.cookie = some "id=1" ∧
      Carries second.cookie ["id = 1; Path=/", "=2"] := by
  intro baseUrl patience options
  let call : Call := .send .get "/rw/panel/ctrlstate" none [200]
  let url : Url := { baseUrl with path := .segments ["rw", "panel", "ctrlstate"] }
  have hurl : baseUrl.join "/rw/panel/ctrlstate" = .ok url := by decide
  have hopening : ∀ jar activity history,
      (Clones.mk options jar activity history : Clones Bool).opening call = .ready call url [] := by
    intro jar activity history
    simp only [opening, client, Client.resolve, options, call, Call.path, hurl]
  -- one clone asks and is refused, then the other one asks
  have hasked : Reaches (fun _ => True) ({ options } : Clones Bool) _ :=
    .step (.step (.refl _) trivial (.begin (i := false) call rfl)) trivial
      (.send ((activity_become_self _ _ _).trans (hopening _ _ _)))
  have hanswered : Reaches (fun _ => True) ({ options } : Clones Bool) _ :=
    .step hasked trivial (.hear (.ok { status := 503, setCookies := ["id = 1; Path=/", "=2"] })
      (activity_become_self _ _ _))
  have hsent : Reaches (fun _ => True) ({ options } : Clones Bool) _ :=
    .step (.step hanswered trivial (.begin (i := true) call rfl)) trivial
      (.send ((activity_become_self _ _ _).trans (hopening _ _ _)))
  exact ⟨_, _, _, hsent, rfl, rfl, rfl,
    ((cookies_follow_answers hsent).1 [_, _] true _ [] rfl).2⟩

end Clones

end RobotWeb.Http
