import RobotWeb.Proofs.Http.Exchanges
import RobotWeb.Proofs.Session.Failure

/-!
# Registered resources and their routing

While a session is open, its router is the one that came with the last call that has registered a
subscription. The controller has accepted the form of that subscription, by an answer that arrived
whole. If it has accepted later forms, then by answers whose bodies broke off: such an answer is a
failed transport for the client, so that the update fails and the old router stays, although the
controller has switched.

An answer is one here as soon as its headers have arrived.

* `registrations`           — the exchanges in which the controller has accepted resources.
* `Registers`               — what comes of handing a form to the controller.
* `latestRegistration?`     — the subscription and the router of the last call that brought some.
* `Session.Reads`           — what a receive or a run does to an open session.
* `Session.Registered`      — the invariant, kept by every call.
* `routing_follows_registration` — after any calls, and for every call after them.
* `broken_answer_parts_routing` — an update after which the two do not belong together.
-/

namespace RobotWeb

-- ---------------------------------------------------------------------------
-- Accepted resources
-- ---------------------------------------------------------------------------

namespace Http

/-- The exchanges in which the controller has accepted resources for the group: it has answered 201
to the creation of a group, or 200 or 204 to the replacement of the group's resources. -/
def registrations (options : Options) (group : String) (talk : List Exchange) : List Exchange :=
  talk.filter fun e =>
    e.isAccepted .post (options.baseUrl.join Client.subscriptionPath).toOption [201] ||
      e.isAccepted .put (options.baseUrl.join (Client.groupPath group)).toOption Client.done

section Registrations

variable {options : Options} {group form : String} {talk more : List Exchange}

theorem registrations_append :
    registrations options group (talk ++ more) =
      registrations options group talk ++ registrations options group more :=
  List.filter_append ..

/-- A request of another method is not accepted as one of this. -/
theorem isAccepted_of_ne {e : Exchange} {method method' : Method} (h : e.request.method = method)
    (hne : method ≠ method') (url? : Option Url) (statuses : List Nat) :
    e.isAccepted method' url? statuses = false := by
  simp [Exchange.isAccepted, h, hne]

/-- Among requests that create groups, those count that are answered 201. -/
theorem registrations_of_post (h : ∀ e ∈ talk, e.request.method = .post) :
    registrations options group talk = talk.filter
      (·.isAccepted .post (options.baseUrl.join Client.subscriptionPath).toOption [201]) := by
  refine List.filter_congr fun e he => ?_
  rw [isAccepted_of_ne (h e he) (by decide : Method.post ≠ .put), Bool.or_false]

/-- Among requests that replace resources, those count that are answered 200 or 204. -/
theorem registrations_of_put (h : ∀ e ∈ talk, e.request.method = .put) :
    registrations options group talk = talk.filter
      (·.isAccepted .put (options.baseUrl.join (Client.groupPath group)).toOption Client.done) := by
  refine List.filter_congr fun e he => ?_
  rw [isAccepted_of_ne (h e he) (by decide : Method.put ≠ .post), Bool.false_or]

/-- The controller has accepted this form for the group in the exchange, and nothing else. -/
structure AcceptedBy (options : Options) (group form : String) (talk : List Exchange)
    (e : Exchange) : Prop where
  alone : registrations options group talk = [e]
  body : e.request.body = some form

/-- What comes of handing a form to the controller for the group. It is accepted, and the caller
knows; or it is not; or it is accepted by an answer that has broken off, and for the caller the
transport has failed. -/
inductive Registers (options : Options) (group form : String) (talk : List Exchange) :
    Except HttpError Unit → Prop where
  | accepted {e : Exchange} (h : AcceptedBy options group form talk e) (whole : e.isWhole = true) :
      Registers options group form talk (.ok ())
  | refused {cause : HttpError} (none : registrations options group talk = []) :
      Registers options group form talk (.error cause)
  | inDoubt {e : Exchange} {cause : HttpError} (h : AcceptedBy options group form talk e)
      (broken : wholeAnswer e.outcome = .error cause) :
      Registers options group form talk (.error cause)

/-- What broke off is not whole. -/
theorem Exchange.isWhole_of_error {e : Exchange} {cause : HttpError}
    (h : wholeAnswer e.outcome = .error cause) : e.isWhole = false := by
  rw [Exchange.isWhole, h]
  rfl

/-- If a form was handed over in vain, the controller may have accepted it only by an answer that
broke off. -/
theorem Registers.lost {cause : HttpError} (h : Registers options group form talk (.error cause)) :
    ∀ e ∈ registrations options group talk, e.isWhole = false := by
  cases h with
  | refused hnone =>
    rw [hnone]
    exact fun _ he => absurd he List.not_mem_nil
  | inDoubt haccepted hbroken =>
    rw [haccepted.alone]
    exact List.forall_mem_singleton.mpr (Exchange.isWhole_of_error hbroken)

namespace Client

/-- An update hands its form to the controller. -/
theorem updateSubscription_registers (c : Client) (group form : String) :
    ∃ talk, c.network.Talk talk (c.updateSubscription group form).2.network ∧
      Registers c.options group form talk (c.updateSubscription group form).1 := by
  obtain ⟨talk, result, htalk, hrequested, hresult⟩ := c.updateSubscription_requested group form
  have hregistrations : registrations c.options group talk = _ :=
    registrations_of_put hrequested.method_eq
  refine ⟨talk, htalk, ?_⟩
  rw [hresult]
  rcases hrequested.accepted_cases (by decide) with
    ⟨e, halone, hbody, hwhole⟩ | ⟨hnone, cause, hcause⟩
  · have haccepted : AcceptedBy c.options group form talk e := ⟨hregistrations.trans halone, hbody⟩
    rw [hwhole]
    cases houtcome : wholeAnswer e.outcome with
    | error cause => exact .inDoubt haccepted houtcome
    | ok answer => exact .accepted haccepted (by rw [Exchange.isWhole, houtcome]; rfl)
  · rw [hcause]
    exact .refused (hregistrations.trans hnone)

/-- The controller has accepted the form of a group that was created. -/
theorem subscribe_registers {c c' : Client} {created : Group}
    (h : c.subscribe form = (.ok created, c')) :
    ∃ talk e, c.network.Talk talk c'.network ∧ e.isWhole = true ∧
      ∀ group, AcceptedBy c.options group form talk e := by
  obtain ⟨talk, result, htalk, hrequested, hresult⟩ := c.subscribe_requested form
  rw [h] at htalk hresult
  rcases hrequested.accepted_cases (by decide) with ⟨e, halone, hbody, hwhole⟩ | ⟨-, cause, hcause⟩
  · refine ⟨talk, e, htalk, ?_, fun group =>
      ⟨(registrations_of_post hrequested.method_eq).trans halone, hbody⟩⟩
    -- a group is created only by an answer that has arrived whole
    cases houtcome : wholeAnswer e.outcome with
    | ok answer =>
      rw [Exchange.isWhole, houtcome]
      rfl
    | error cause =>
      rw [hwhole, houtcome] at hresult
      cases hresult
  · rw [hcause] at hresult
    cases hresult

end Client

end Registrations

end Http

namespace Stream

-- ---------------------------------------------------------------------------
-- Reading from an open session
-- ---------------------------------------------------------------------------

/-- The next reads of a transport. -/
def readsFrom {τ : Type} [FrameTransport τ] (transport : τ) : Nat → List Read
  | 0 => []
  | count + 1 =>
    (FrameTransport.receive transport).1.read ::
      readsFrom (FrameTransport.receive transport).2 count

/-- The next reads, cut at any point. -/
theorem readsFrom_add {τ : Type} [FrameTransport τ] (transport : τ) (count more : Nat) :
    readsFrom transport (count + more) =
      readsFrom transport count ++ readsFrom (afterWaits transport count) more := by
  induction count generalizing transport with
  | zero => simp [readsFrom, afterWaits]
  | succ count ih => rw [Nat.succ_add, readsFrom, ih, readsFrom, afterWaits, List.cons_append]

theorem afterWaits_add {τ : Type} [FrameTransport τ] (transport : τ) (count more : Nat) :
    afterWaits transport (count + more) = afterWaits (afterWaits transport count) more := by
  induction count generalizing transport with
  | zero => simp [afterWaits]
  | succ count ih => rw [Nat.succ_add, afterWaits, ih, afterWaits]

/-- The events of later reads are handed over after those of earlier ones. -/
theorem Subscriber.after_append {η : Type} (subscriber : Subscriber η) (router : Router) (state : η)
    (reads more : List Read) :
    subscriber.after router state (reads ++ more) =
      subscriber.after router (subscriber.after router state reads) more := by
  simp [Subscriber.after, Router.handleAll_append]

namespace Session

variable {κ τ η : Type} [FrameTransport τ]

/-- The session has waited so many times on its open stream, and all that it has done besides is to
end. -/
structure Reads (s s' : Session κ τ) (transport : τ) (count : Nat) : Prop where
  opened : s'.phase ≠ .unopened
  router : s'.router = s.router
  trace : ∃ ending, s'.trace = s.trace ++ List.replicate count .receive ++ ending ∧
    .receive ∉ ending ∧ (s'.phase = .active → ending = [])
  network : s'.phase = .active → s'.client.network = s.client.network
  options : s'.phase = .active → s'.client.options = s.client.options
  group : s'.phase = .active → s'.group? = s.group?
  transport : s'.phase = .active → s'.transport? = some (afterWaits transport count)

section Reads

variable {s s' s'' : Session κ τ} {transport : τ} {count more : Nat} {group : String}

/-- Reading goes on from where it has left the stream, as long as the session is open. -/
theorem Reads.append (h : s.Reads s' transport count) (hactive : s'.phase = .active)
    (h' : s'.Reads s'' (afterWaits transport count) more) :
    s.Reads s'' transport (count + more) where
  opened := h'.opened
  router := h'.router.trans h.router
  trace := by
    -- the session is still open in between, so that nothing but reads stands in the trace there
    obtain ⟨none, htrace, -, hnone⟩ := h.trace
    obtain ⟨ending, htrace', hending, hactive'⟩ := h'.trace
    refine ⟨ending, ?_, hending, hactive'⟩
    rw [htrace', htrace, hnone hactive, List.append_nil, ← List.replicate_append_replicate]
    simp only [List.append_assoc]
  network ha := (h'.network ha).trans (h.network hactive)
  options ha := (h'.options ha).trans (h.options hactive)
  group ha := (h'.group ha).trans (h.group hactive)
  transport ha := by rw [h'.transport ha, afterWaits_add]

/-- What is logged does not count. -/
theorem Reads.logged (h : s.Reads s' transport count) (journal : List Log.Record) :
    s.Reads (s'.logged journal) transport count :=
  ⟨h.opened, h.router, h.trace, h.network, h.options, h.group, h.transport⟩

/-- A shut down session has deleted its group and closed its stream. -/
theorem Reads.shutDown (hg : s'.group? = some group) {left : τ} (ht : s'.transport? = some left)
    (hrouter : s'.router = s.router)
    (htrace : s'.trace = s.trace ++ List.replicate count .receive) :
    s.Reads s'.shutDown transport count := by
  obtain ⟨client, deleted, hs⟩ := shutDown_of_open hg ht
  rw [hs]
  refine ⟨by simp, hrouter,
    ⟨[.unsubscribe group deleted, .closeStream (FrameTransport.close left).1.isOk], ?_, by simp,
      by simp⟩, by simp, by simp, by simp, by simp⟩
  rw [htrace]

/-- A failed session has closed its stream and deleted its group. -/
theorem Reads.fail (hg : s'.group? = some group) {left : τ} (ht : s'.transport? = some left)
    (hrouter : s'.router = s.router)
    (htrace : s'.trace = s.trace ++ List.replicate count .receive) :
    s.Reads s'.fail transport count := by
  obtain ⟨client, deleted, hs⟩ := fail_of_open hg ht
  rw [hs]
  refine ⟨by simp, hrouter,
    ⟨[.closeStream (FrameTransport.close left).1.isOk, .unsubscribe group deleted], ?_, by simp,
      by simp⟩, by simp, by simp, by simp, by simp⟩
  rw [htrace]

/-- A receive waits at most once and hands over the events of what it has read. -/
theorem receive_reads (hp : s.phase = .active) (hg : s.group? = some group)
    (ht : s.transport? = some transport) (subscriber : Subscriber η) (state : η) :
    ∃ count, s.Reads (s.receive subscriber state).2.2 transport count ∧
      (s.receive subscriber state).2.1 =
        subscriber.after s.router state (readsFrom transport count) := by
  -- a session that is asked to close reads nothing, any other one reads once
  cases hr : s.closeRequested with
  | true =>
    rw [receive_of_requested hp hr]
    exact ⟨0, .shutDown hg ht rfl (by simp), rfl⟩
  | false =>
    obtain ⟨⟨wait, left⟩, hw⟩ : ∃ r, FrameTransport.receive transport = r := ⟨_, rfl⟩
    obtain ⟨closeRequested, hreceive⟩ := receive_of_wait hp hr ht hw subscriber state
    have hreads : readsFrom transport 1 = [wait.read] := by simp [readsFrom, hw]
    have hleft : afterWaits transport 1 = left := by simp [afterWaits, hw]
    rw [hreceive]
    refine ⟨1, ?_, by rw [hreads, conclude_state]; rfl⟩
    have hreads' : s.Reads ((s.afterWait wait left).conclude subscriber state wait.read).2.2
        transport 1 := by
      rcases conclude_cases (s.afterWait wait left) subscriber state wait.read with
        ⟨journal, hs, -⟩ | hs | ⟨e, -, hs⟩
      · rw [hs]
        exact ⟨by simp [afterWait, Session.logged, hp], rfl,
          ⟨[], by simp [afterWait, Session.logged], by simp, fun _ => rfl⟩, fun _ => rfl,
          fun _ => rfl, fun _ => rfl, fun _ => hleft ▸ rfl⟩
      · rw [hs]
        exact .shutDown hg rfl rfl rfl
      · rw [hs]
        exact .fail hg rfl rfl rfl
    -- noting a request of the subscriber changes only the flag
    exact ⟨hreads'.opened, hreads'.router, hreads'.trace, hreads'.network, hreads'.options,
      hreads'.group, hreads'.transport⟩

/-- A run that does not go on after its first receive ends as this does. -/
theorem run_of_not_staysOpen (hp : s.phase = .active) {subscriber : Subscriber η} {state : η}
    (ho : staysOpen (s.receive subscriber state).1 = false) (limit : Nat) :
    (s.run (limit + 1) subscriber state).2 = (s.receive subscriber state).2 := by
  obtain ⟨⟨outcome, state', next⟩, hr⟩ : ∃ r, s.receive subscriber state = r := ⟨_, rfl⟩
  rw [hr] at ho ⊢
  match outcome with
  | .ok .closed => rw [run_of_closed hr]
  | .error e =>
    rcases receive_of_error (by rw [hr]) with ⟨hn, -⟩ |
      ⟨-, _, -, ⟨cause, _, _, rfl, -⟩ | ⟨cause, rfl, -⟩⟩
    · exact absurd hp hn
    · cases ho
    · rw [run_of_failed hr]

/-- A run hands over the events of what it has read. -/
theorem run_reads (hp : s.phase = .active) (hg : s.group? = some group)
    (ht : s.transport? = some transport) (limit : Nat) (subscriber : Subscriber η) (state : η) :
    ∃ count, s.Reads (s.run limit subscriber state).2.2 transport count ∧
      (s.run limit subscriber state).2.1 =
        subscriber.after s.router state (readsFrom transport count) := by
  -- over the turns: the reads of the first one come before those of the rest
  induction limit generalizing s transport state with
  | zero => exact ⟨0, ⟨by simp [run, hp], rfl, ⟨[], by simp [run], by simp, fun _ => rfl⟩,
      fun _ => rfl, fun _ => rfl, fun _ => rfl, fun _ => ht⟩, rfl⟩
  | succ limit ih =>
    obtain ⟨count, hreads, hstate⟩ := receive_reads hp hg ht subscriber state
    cases ho : staysOpen (s.receive subscriber state).1 with
    | false =>
      rw [run_of_not_staysOpen hp ho]
      exact ⟨count, hreads, hstate⟩
    | true =>
      have hactive := phase_receive_of_staysOpen hp ho
      obtain ⟨⟨outcome, state', next⟩, hr⟩ : ∃ r, s.receive subscriber state = r := ⟨_, rfl⟩
      rw [hr] at hreads hstate ho hactive
      dsimp only at hreads hstate ho hactive
      obtain ⟨journal, hrun⟩ := run_of_staysOpen hr ho hactive
      obtain ⟨more, hmore, hstate'⟩ := ih (s := next.logged journal) hactive
        ((hreads.group hactive).trans hg) (hreads.transport hactive) state'
      have hrouter : (next.logged journal).router = s.router := hreads.router
      rw [hrun]
      refine ⟨count + more, (hreads.logged journal).append hactive hmore, ?_⟩
      rw [hstate', hrouter, hstate, readsFrom_add, Subscriber.after_append]

end Reads

-- ---------------------------------------------------------------------------
-- Sessions that read alike
-- ---------------------------------------------------------------------------

/-- The sessions differ in their clients and in what they have done so far. -/
def Like (s s' : Session κ τ) : Prop :=
  ∃ client trace, s' = { s with client, trace }

section Like

variable {s s' : Session κ τ}

omit [FrameTransport τ] in
theorem Like.note (h : s.Like s') (level : Log.Level) (message : String) :
    (s.note level message).Like (s'.note level message) := by
  obtain ⟨client, trace, rfl⟩ := h
  exact ⟨_, _, rfl⟩

omit [FrameTransport τ] in
/-- Sessions that are alike delete the same group, if they have one. -/
theorem Like.unsubscribe (h : s.Like s') : s.unsubscribe.Like s'.unsubscribe := by
  obtain ⟨client, trace, rfl⟩ := h
  obtain hg | ⟨group, hg⟩ := Option.eq_none_or_eq_some s.group?
  · exact ⟨client, trace, by simp [Session.unsubscribe, hg]⟩
  · obtain ⟨client₁, deleted₁, h₁⟩ := unsubscribe_of_some hg
    obtain ⟨client₂, deleted₂, h₂⟩ := unsubscribe_of_some (s := { s with client, trace }) hg
    exact ⟨client₂, _, by rw [h₁, h₂]⟩

/-- They close the same stream. -/
theorem Like.closeStream (h : s.Like s') : s.closeStream.Like s'.closeStream := by
  obtain ⟨client, trace, rfl⟩ := h
  obtain ht | ⟨transport, ht⟩ := Option.eq_none_or_eq_some s.transport?
  · exact ⟨client, trace, by simp [Session.closeStream, ht]⟩
  · exact ⟨client, trace ++ [.closeStream (FrameTransport.close transport).1.isOk],
      by simp [Session.closeStream, ht, record]⟩

theorem Like.shutDown (h : s.Like s') : s.shutDown.Like s'.shutDown := by
  have hclosing :
      ({ s with phase := .closing } : Session κ τ).Like { s' with phase := .closing } := by
    obtain ⟨client, trace, rfl⟩ := h
    exact ⟨client, trace, rfl⟩
  obtain ⟨client, trace, hended⟩ := hclosing.unsubscribe.closeStream
  refine Like.note ⟨client, trace, ?_⟩ .info "subscription session closed"
  rw [hended]

theorem Like.fail (h : s.Like s') : s.fail.Like s'.fail := by
  obtain ⟨client, trace, hended⟩ := h.closeStream.unsubscribe
  exact ⟨client, trace, by rw [Session.fail, hended, Session.fail]⟩

/-- Sessions that are alike route a frame alike and tell the same of it. -/
theorem Like.deliver (h : s.Like s') (subscriber : Subscriber η) (state : η) (frame : Frame) :
    (s'.deliver subscriber state frame).1 = (s.deliver subscriber state frame).1 ∧
      (s'.deliver subscriber state frame).2.1 = (s.deliver subscriber state frame).2.1 ∧
      (s.deliver subscriber state frame).2.2.Like (s'.deliver subscriber state frame).2.2 := by
  have hrouter : s'.router = s.router := by
    obtain ⟨client, trace, rfl⟩ := h
    rfl
  unfold Session.deliver
  rw [hrouter]
  split
  · exact ⟨rfl, rfl, h.shutDown⟩
  · split
    · exact ⟨rfl, rfl, h⟩
    · split
      · exact ⟨rfl, rfl, h.note _ _⟩
      · split
        · exact ⟨rfl, rfl, h.note _ _⟩
        · exact ⟨rfl, rfl, h⟩

/-- Sessions that are alike tell the same of any read and are alike after it. -/
theorem Like.conclude (h : s.Like s') (subscriber : Subscriber η) (state : η) (read : Read) :
    (s'.conclude subscriber state read).1 = (s.conclude subscriber state read).1 ∧
      (s'.conclude subscriber state read).2.1 = (s.conclude subscriber state read).2.1 ∧
      (s.conclude subscriber state read).2.2.Like (s'.conclude subscriber state read).2.2 := by
  have hrequested : s'.closeRequested = s.closeRequested := by
    obtain ⟨client, trace, rfl⟩ := h
    rfl
  match read with
  | .ok (.frame frame) => exact h.deliver subscriber state frame
  | .ok .idle =>
    simp only [Session.conclude, hrequested]
    split
    · exact ⟨rfl, rfl, h.shutDown⟩
    · exact ⟨rfl, rfl, h⟩
  | .ok .closed => exact ⟨rfl, rfl, h.shutDown⟩
  | .error e => exact ⟨rfl, rfl, (h.note _ _).fail⟩

/-- Sessions that are alike receive the same and are alike after it. -/
theorem Like.receive (h : s.Like s') (subscriber : Subscriber η) (state : η) :
    (s'.receive subscriber state).1 = (s.receive subscriber state).1 ∧
      (s'.receive subscriber state).2.1 = (s.receive subscriber state).2.1 ∧
      (s.receive subscriber state).2.2.Like (s'.receive subscriber state).2.2 := by
  have hself := h
  obtain ⟨client, trace, rfl⟩ := h
  -- what decides the branch is the same in both, since only the client and the trace differ
  by_cases hp : s.phase = .active
  · by_cases hr : s.closeRequested = true
    · rw [receive_of_requested hp hr, receive_of_requested (s := { s with client, trace }) hp hr]
      exact ⟨rfl, rfl, hself.shutDown⟩
    · have hr : s.closeRequested = false := by simpa using hr
      obtain ht | ⟨transport, ht⟩ := Option.eq_none_or_eq_some s.transport?
      · rw [receive_of_streamless hp hr ht,
          receive_of_streamless (s := { s with client, trace }) hp hr ht]
        exact hself.conclude subscriber state (.ok .closed)
      · obtain ⟨⟨wait, left⟩, hw⟩ : ∃ r, FrameTransport.receive transport = r := ⟨_, rfl⟩
        have hwaited :
            (s.afterWait wait left).Like ({ s with client, trace }.afterWait wait left) :=
          ⟨client, trace ++ [.receive], rfl⟩
        obtain ⟨houtcome, hstate, client', trace', hs⟩ :=
          hwaited.conclude subscriber state wait.read
        rw [receive_of_open hp hr ht hw,
          receive_of_open (s := { s with client, trace }) hp hr ht hw]
        refine ⟨houtcome, hstate, client', trace', ?_⟩
        simp only [noteRequests, hstate, hs]
  · by_cases hc : s.phase = .closed
    · rw [receive_of_closed hc, receive_of_closed (s := { s with client, trace }) hc]
      exact ⟨rfl, rfl, hself⟩
    · rw [receive_of_misused hp hc, receive_of_misused (s := { s with client, trace }) hp hc]
      exact ⟨rfl, rfl, hself⟩

/-- Sessions that are alike run alike. -/
theorem Like.run (h : s.Like s') (limit : Nat) (subscriber : Subscriber η) (state : η) :
    (s'.run limit subscriber state).1 = (s.run limit subscriber state).1 ∧
      (s'.run limit subscriber state).2.1 = (s.run limit subscriber state).2.1 := by
  induction limit generalizing s s' state with
  | zero => exact ⟨rfl, rfl⟩
  | succ limit ih =>
    obtain ⟨⟨outcome, state₁, next⟩, hr⟩ : ∃ r, s.receive subscriber state = r := ⟨_, rfl⟩
    obtain ⟨⟨outcome', state₁', next'⟩, hr'⟩ : ∃ r, s'.receive subscriber state = r := ⟨_, rfl⟩
    obtain ⟨houtcome, hstate, hnext⟩ := h.receive subscriber state
    rw [hr, hr'] at houtcome hstate hnext
    dsimp only at houtcome hstate hnext
    subst houtcome hstate
    -- a failed turn goes on or not by the phase, which is the same
    have hphase : next'.phase = next.phase := by
      obtain ⟨client, trace, rfl⟩ := hnext
      rfl
    match outcome' with
    | .ok .closed => simp [Session.run, hr, hr']
    | .ok (.delivered _) | .ok .idle =>
      simp only [Session.run, hr, hr']
      exact ih hnext _
    | .error e =>
      simp only [Session.run, hr, hr', hphase]
      split
      · exact ih (hnext.note _ _) _
      · exact ⟨rfl, rfl⟩

end Like

end Session

-- ---------------------------------------------------------------------------
-- Registrations
-- ---------------------------------------------------------------------------

/-- What a session is subscribed to, and what routes the events of that. -/
structure Registration where
  subscription : Subscription
  router : Router

/-- The registration after a call that was replied to like this. An opening registers its
subscription with the router of the new session, an update with the one that it brings; both do so
only if they succeed. -/
def Registration.next (router : Router) (current? : Option Registration) :
    Call × Reply → Option Registration
  | (.start subscription, .started (.ok ())) => some ⟨subscription, router⟩
  | (.update subscription router, .updated (.ok ())) => some ⟨subscription, router⟩
  | _ => current?

/-- The last registration in the calls on a session that was made with this router. -/
def latestRegistration? (router : Router) (past : List (Call × Reply)) : Option Registration :=
  past.foldl (Registration.next router) none

/-- One more call changes the registration or leaves it. -/
theorem latestRegistration?_concat (router : Router) (past : List (Call × Reply))
    (entry : Call × Reply) :
    latestRegistration? router (past ++ [entry]) =
      Registration.next router (latestRegistration? router past) entry := by
  simp [latestRegistration?]

namespace Session

variable {κ τ η : Type}

/-- The session is open for the group, and its router is that of the registration. The controller
has accepted the form of the same registration by an answer that arrived whole, and has accepted
others after it only by answers that broke off. -/
structure Agrees (client : Http.Client) (registration : Registration) (group : String)
    (talk : List Http.Exchange) (s : Session κ τ) : Prop where
  routes : s.router = registration.router
  holds : s.group? = some group
  transport : s.transport?.isSome = true
  options : s.client.options = client.options
  exchanged : client.network.Talk talk s.client.network
  accepted : ∃ earlier e lost,
    Http.registrations client.options group talk = earlier ++ e :: lost ∧
    e.request.body = some registration.subscription.encodeBody ∧ e.isWhole = true ∧
    ∀ e' ∈ lost, e'.isWhole = false

/-- Where the registration of a session stands after these calls. -/
structure Registered (client : Http.Client) (router : Router) (past : List (Call × Reply))
    (s : Session κ τ) : Prop where
  unopened : s.phase = .unopened → s.client = client ∧ s.router = router
  active : s.phase = .active → ∃ registration group talk,
    latestRegistration? router past = some registration ∧ s.Agrees client registration group talk

section Registered

variable {s : Session κ τ} {client : Http.Client} {router : Router} {past : List (Call × Reply)}
  {registration : Registration} {group : String} {talk : List Http.Exchange}

/-- What the controller has accepted last is the form of the registration, if its answer to that has
arrived whole. -/
theorem Agrees.last_accepted (h : s.Agrees client registration group talk) {last : Http.Exchange}
    (hlast : (Http.registrations client.options group talk).getLast? = some last)
    (hwhole : last.isWhole = true) :
    last.request.body = some registration.subscription.encodeBody := by
  obtain ⟨earlier, e, lost, hall, hbody, -, hlost⟩ := h.accepted
  rw [hall] at hlast
  -- all that was accepted behind the registration has a broken answer
  rcases List.eq_nil_or_concat lost with rfl | ⟨before, final, rfl⟩
  · rw [List.getLast?_concat] at hlast
    obtain rfl := Option.some.inj hlast
    exact hbody
  · rw [List.concat_eq_append, ← List.cons_append, ← List.append_assoc,
      List.getLast?_concat] at hlast
    obtain rfl := Option.some.inj hlast
    have hbroken := hlost final (by simp)
    rw [hwhole] at hbroken
    cases hbroken

/-- An update of a session that is not open, or to no resources, is refused before the controller is
asked. -/
theorem update_refused {subscription : Subscription}
    (h : s.phase ≠ .active ∨ subscription.isEmpty = true) (router : Router) :
    ∃ e, s.update subscription router = (.error e, s) := by
  by_cases hp : s.phase = .active
  · have hempty := h.resolve_left (not_not_intro hp)
    exact ⟨.api (.validation (.missing "resources")), by simp [update, hp, hempty]⟩
  · exact ⟨s.misuse "update", by simp [update, hp]⟩

/-- Any other update hands its form to the controller, and the router changes if it succeeds. -/
theorem update_registers {subscription : Subscription} (hp : s.phase = .active)
    (he : subscription.isEmpty = false) (hg : s.group? = some group) (router : Router) :
    ∃ client talk result, client.options = s.client.options ∧
      s.client.network.Talk talk client.network ∧
      Http.Registers s.client.options group subscription.encodeBody talk result ∧
      s.update subscription router = (result.mapError fun cause => .update (.ofHttp cause),
        { s with
          client
          router := if result.isOk then router else s.router
          trace := s.trace ++ [.update group subscription.encodeBody result.isOk] }) := by
  obtain ⟨talk, htalk, hregisters⟩ :=
    s.client.updateSubscription_registers group subscription.encodeBody
  have hoptions := s.client.options_updateSubscription group subscription.encodeBody
  obtain ⟨⟨result, client⟩, hu⟩ :
      ∃ r, s.client.updateSubscription group subscription.encodeBody = r := ⟨_, rfl⟩
  rw [hu] at htalk hregisters hoptions
  refine ⟨client, talk, result, hoptions, htalk, hregisters, ?_⟩
  simp only [update, hp, he, hg, hu, ne_eq, not_true_eq_false, if_false, Bool.false_eq_true]
  cases result <;> rfl

/-- A failed update changes nothing but the client, which has been told, and the trace. -/
theorem update_like {subscription : Subscription} {router : Router} {e : SessionError}
    (h : (s.update subscription router).1 = .error e) :
    s.Like (s.update subscription router).2 := by
  rcases s.update_cases subscription router with ⟨_, -, hu⟩ | ⟨_, client, _, _, -, hu⟩ | hok
  · rw [hu]
    exact ⟨s.client, s.trace, rfl⟩
  · rw [hu]
    exact ⟨client, _, rfl⟩
  · rw [hok] at h
    cases h

/-- The session after exchanges in which nothing was accepted, but by answers that broke off. -/
theorem Agrees.keep {s' : Session κ τ} {more : List Http.Exchange}
    (h : s.Agrees client registration group talk) (hrouter : s'.router = s.router)
    (hgroup : s'.group? = s.group?) (htransport : s'.transport?.isSome = true)
    (hoptions : s'.client.options = s.client.options)
    (htalk : s.client.network.Talk more s'.client.network)
    (hlost : ∀ e ∈ Http.registrations client.options group more, e.isWhole = false) :
    s'.Agrees client registration group (talk ++ more) where
  routes := hrouter.trans h.routes
  holds := hgroup.trans h.holds
  transport := htransport
  options := hoptions.trans h.options
  exchanged := h.exchanged.append htalk
  accepted := by
    obtain ⟨earlier, e, lost, hall, hbody, hwhole, hbefore⟩ := h.accepted
    refine ⟨earlier, e, lost ++ Http.registrations client.options group more, ?_, hbody, hwhole, ?_⟩
    · rw [Http.registrations_append, hall, List.append_assoc, List.cons_append]
    · exact fun e' he' => (List.mem_append.mp he').elim (hbefore e') (hlost e')

/-- The session after exchanges in which the form of another registration was accepted. -/
theorem Agrees.replace {s' : Session κ τ} {more : List Http.Exchange} {next : Registration}
    {e : Http.Exchange} (h : s.Agrees client registration group talk)
    (hrouter : s'.router = next.router) (hgroup : s'.group? = s.group?)
    (htransport : s'.transport? = s.transport?) (hoptions : s'.client.options = s.client.options)
    (htalk : s.client.network.Talk more s'.client.network)
    (haccepted : Http.AcceptedBy client.options group next.subscription.encodeBody more e)
    (hwhole : e.isWhole = true) :
    s'.Agrees client next group (talk ++ more) where
  routes := hrouter
  holds := hgroup.trans h.holds
  transport := htransport ▸ h.transport
  options := hoptions.trans h.options
  exchanged := h.exchanged.append htalk
  accepted := ⟨_, e, [], by rw [Http.registrations_append, haccepted.alone], haccepted.body, hwhole,
    fun _ he => absurd he List.not_mem_nil⟩

/-- A session that has ended is not registered for anything. -/
theorem Registered.of_finished (h : s.phase.isFinished = true) :
    s.Registered client router past where
  unopened hp := by simp [hp, Phase.isFinished] at h
  active hp := by simp [hp, Phase.isFinished] at h

/-- A call that brings no registration keeps the one there is, as long as the controller has
accepted nothing either, or only by answers that broke off. -/
theorem Registered.keep {s' : Session κ τ} {entry : Call × Reply} (more : List Http.Exchange)
    (h : s.Registered client router past)
    (hnext : ∀ current?, Registration.next router current? entry = current?)
    (hunopened : s'.phase = .unopened → s.phase = .unopened ∧ s'.client = s.client ∧
      s'.router = s.router)
    (hactive : s'.phase = .active → s.phase = .active ∧ s'.router = s.router ∧
      s'.group? = s.group? ∧ s'.transport?.isSome = s.transport?.isSome ∧
      s'.client.options = s.client.options ∧ s.client.network.Talk more s'.client.network ∧
      ∀ group, s.group? = some group →
        ∀ e ∈ Http.registrations s.client.options group more, e.isWhole = false) :
    s'.Registered client router (past ++ [entry]) where
  unopened hp := by
    obtain ⟨hs, hclient, hrouter⟩ := hunopened hp
    exact ⟨hclient.trans (h.unopened hs).1, hrouter.trans (h.unopened hs).2⟩
  active hp := by
    obtain ⟨hs, hrouter, hgroup, htransport, hoptions, htalk, hlost⟩ := hactive hp
    obtain ⟨registration, group, talk, hlatest, hagrees⟩ := h.active hs
    -- the exchanges are added to those since the registration, as far as they were lost
    refine ⟨registration, group, talk ++ more, ?_, hagrees.keep hrouter hgroup
      (htransport.trans hagrees.transport) hoptions htalk
      (hagrees.options ▸ hlost group hagrees.holds)⟩
    rw [latestRegistration?_concat, hnext, hlatest]

/-- A call that does not change the session, or only asks it to close, keeps its registration. -/
theorem Registered.untouched {entry : Call × Reply} (h : s.Registered client router past)
    (hnext : ∀ current?, Registration.next router current? entry = current?)
    (closeRequested : Bool) :
    { s with closeRequested }.Registered client router (past ++ [entry]) :=
  h.keep [] hnext (fun hp => ⟨hp, rfl, rfl⟩)
    fun hp => ⟨hp, rfl, rfl, rfl, rfl, .silent _, fun _ _ _ he => absurd he List.not_mem_nil⟩

/-- An update brings its own registration if it succeeds, and else the old one stays: what the
controller may have accepted then was accepted by an answer that broke off. -/
theorem Registered.update (h : s.Registered client router past) (subscription : Subscription)
    (router' : Router) :
    (s.update subscription router').2.Registered client router
      (past ++ [(.update subscription router', .updated (s.update subscription router').1)]) := by
  by_cases hrefused : s.phase ≠ .active ∨ subscription.isEmpty = true
  · obtain ⟨e, hu⟩ := update_refused hrefused router'
    rw [hu]
    exact h.untouched (fun _ => rfl) s.closeRequested
  obtain ⟨hactive, hsome⟩ := not_or.mp hrefused
  have hp : s.phase = .active := not_not.mp hactive
  obtain ⟨registration, group, talk, hlatest, hagrees⟩ := h.active hp
  obtain ⟨client', more, result, hoptions, htalk, hregisters, hu⟩ :=
    update_registers hp (by simpa using hsome) hagrees.holds router'
  rw [hu]
  -- the router and the form change together, or neither does; a form in doubt came with an answer
  -- that broke off, which the registration allows for
  cases result with
  | error cause =>
    refine h.keep more (fun _ => rfl) (fun hunopened => by simp [hp] at hunopened)
      fun _ => ⟨hp, rfl, rfl, rfl, hoptions, htalk, fun group' hgroup => ?_⟩
    obtain rfl := Option.some.inj (hagrees.holds.symm.trans hgroup)
    exact hregisters.lost
  | ok =>
    cases hregisters with
    | accepted haccepted hwhole =>
      rw [hagrees.options] at haccepted
      refine ⟨fun hunopened => by simp [hp] at hunopened, fun _ =>
        ⟨⟨subscription, router'⟩, group, talk ++ more, ?_,
          hagrees.replace rfl rfl rfl hoptions htalk haccepted hwhole⟩⟩
      rw [latestRegistration?_concat]
      rfl

variable [FrameTransport τ]

/-- What is read from a session does not change its registration. -/
theorem Registered.reads {s' : Session κ τ} {transport : τ} {count : Nat} {entry : Call × Reply}
    (h : s.Registered client router past)
    (hnext : ∀ current?, Registration.next router current? entry = current?)
    (hactive : s.phase = .active) (ht : s.transport? = some transport)
    (hreads : s.Reads s' transport count) :
    s'.Registered client router (past ++ [entry]) := by
  refine h.keep [] hnext (fun hp => absurd hp hreads.opened) fun hp => ⟨hactive, hreads.router,
    hreads.group hp, ?_, hreads.options hp, ?_, fun _ _ _ he => absurd he List.not_mem_nil⟩
  · rw [hreads.transport hp, ht]
    rfl
  · rw [hreads.network hp]
    exact .silent _

variable [StreamConnector κ τ]

/-- Connecting that leads to an open stream changes nothing else. -/
theorem connectTo_active {locator : Locator} (h : (s.connectTo locator).2.phase = .active) :
    (s.connectTo locator).1 = .ok () ∧ ∃ journal connector transport trace,
      (s.connectTo locator).2 = { s.logged journal with
        connector, transport? := some transport, phase := .active, trace } := by
  unfold connectTo at h ⊢
  split at h
  · exact ⟨rfl, _, _, _, _, rfl⟩
  · cases h

/-- An opening that leads to an open stream has registered its subscription. -/
theorem start_registers {subscription : Subscription} (hunopened : s.phase = .unopened)
    (h : (s.start subscription).2.phase = .active) :
    (s.start subscription).1 = .ok () ∧ ∃ group talk,
      (s.start subscription).2.Agrees s.client ⟨subscription, s.router⟩ group talk := by
  -- each way to stop before the stream is open contradicts the phase
  by_cases he : subscription.isEmpty = true
  · simp [start, hunopened, he] at h
  · simp only [start, hunopened, he, ne_eq, not_true_eq_false, if_false, Bool.false_eq_true] at h ⊢
    cases hsub : s.client.subscribe subscription.encodeBody with
    | mk outcome after =>
      cases outcome with
      | error e => simp [hsub, note, record] at h
      | ok created =>
        simp only [hsub] at h ⊢
        cases hurl : after.streamUrl created.location with
        | error e => simp [record, hurl, fail] at h
        | ok url =>
          simp only [record, hurl] at h ⊢
          obtain ⟨hok, journal, connector, transport, trace, hs⟩ := connectTo_active h
          obtain ⟨talk, e, htalk, hwhole, haccepted⟩ := Http.Client.subscribe_registers hsub
          have hoptions := s.client.options_subscribe subscription.encodeBody
          rw [hsub] at hoptions
          refine ⟨hok, created.id, talk, ?_⟩
          rw [hs]
          obtain ⟨halone, hbody⟩ := haccepted created.id
          exact ⟨rfl, rfl, rfl, hoptions, htalk, [], e, [], halone, hbody, hwhole,
            fun _ he => absurd he List.not_mem_nil⟩

/-- An opening registers its subscription with the router of the new session, if it succeeds. -/
theorem Registered.start (h : s.Registered client router past) (subscription : Subscription) :
    (s.start subscription).2.Registered client router
      (past ++ [(.start subscription, .started (s.start subscription).1)]) := by
  rcases start_cases s subscription with ⟨-, e, -, hs⟩ |
    ⟨hunopened, -, ⟨e, -, -, hfailed⟩ | ⟨hok, hactive⟩⟩
  · rw [hs]
    exact h.untouched (fun _ => rfl) s.closeRequested
  · exact .of_finished (by simp [hfailed, Phase.isFinished])
  · obtain ⟨rfl, rfl⟩ := h.unopened hunopened
    obtain ⟨-, group, talk, hagrees⟩ := start_registers hunopened hactive
    rw [hok]
    refine ⟨fun hp => by simp [hactive] at hp, fun _ => ⟨_, group, talk, ?_, hagrees⟩⟩
    rw [latestRegistration?_concat]
    rfl

/-- Every call keeps the registration in step with its reply. -/
theorem Registered.perform (h : s.Registered client router past) (call : Call) :
    (s.perform call).2.Registered client router (past ++ [(call, (s.perform call).1)]) := by
  by_cases hactive : s.phase = .active
  -- an opening and a close may change the phase; a request is noted, all else changes nothing
  case neg =>
    cases call with
    | start subscription => exact h.start subscription
    | update subscription router' => exact h.update subscription router'
    | receive subscriber state =>
      rw [(perform_of_not_active hactive (.receive subscriber state) rfl).1]
      exact h.untouched (fun _ => rfl) s.closeRequested
    | run limit subscriber state =>
      rw [(perform_of_not_active hactive (.run limit subscriber state) rfl).1]
      exact h.untouched (fun _ => rfl) s.closeRequested
    | detach =>
      rw [(perform_of_not_active hactive .detach rfl).1]
      exact h.untouched (fun _ => rfl) s.closeRequested
    | requestClose => exact h.untouched (fun _ => rfl) true
    | close =>
      by_cases hunopened : s.phase = .unopened
      · exact .of_finished (by simp [Session.perform, Session.close, hunopened, Phase.isFinished])
      · simp only [Session.perform, close_of_neither hunopened hactive]
        exact h.untouched (fun _ => rfl) s.closeRequested
  obtain ⟨registration, group, talk, -, hagrees⟩ := h.active hactive
  obtain ⟨transport, ht⟩ := Option.isSome_iff_exists.mp hagrees.transport
  cases call with
  | start subscription => exact h.start subscription
  | update subscription router' => exact h.update subscription router'
  | receive subscriber state =>
    obtain ⟨count, hreads, -⟩ := receive_reads hactive hagrees.holds ht subscriber state
    exact h.reads (fun _ => rfl) hactive ht hreads
  | run limit subscriber state =>
    obtain ⟨count, hreads, -⟩ := run_reads hactive hagrees.holds ht limit subscriber state
    exact h.reads (fun _ => rfl) hactive ht hreads
  | close => exact .of_finished (by simp [Session.perform, Session.close, hactive, shutDown, note,
      Phase.isFinished])
  | detach => exact .of_finished (by simp [Session.perform, Session.detach, hactive, note,
      Phase.isFinished])
  | requestClose => exact h.untouched (fun _ => rfl) true

end Registered

end Session

open Session in
/-- **Routing follows the registration, but for answers that break off.** An answer of the
controller is one here as soon as its headers have arrived.

After any calls, and whatever the outside answered, an open session routes by the router of the last
call that registered a subscription, and all that a receive or a run reads then is routed by it. The
controller has accepted the form of that subscription by an answer that arrived whole. It may have
accepted others later, but each by an answer whose body broke off, so that the form which it has
accepted last is the one of the router if its last answer of that kind has arrived whole.

An update hands its form to the controller, and the router changes if the controller accepts it by
an answer that arrives whole. If the update fails, what is read next is routed as if it had not been
tried. The controller has accepted nothing by it then, or it has, and the failure tells of the
answer that broke off. An update that finds the session not open or brings no resources does not ask
the controller at all. -/
theorem routing_follows_registration {κ τ : Type} [FrameTransport τ] [StreamConnector κ τ]
    (client : Http.Client) (router : Router) (connector : κ) (options : Options)
    (calls : List Call) :
    let after := (create client router connector options : Session κ τ).performAll calls
    let s := after.2
    (s.phase = .active → ∃ registration group talk transport,
      latestRegistration? router (calls.zip after.1) = some registration ∧
      s.Agrees client registration group talk ∧
      (∀ last, (Http.registrations client.options group talk).getLast? = some last →
        last.isWhole = true → last.request.body = some registration.subscription.encodeBody) ∧
      s.transport? = some transport ∧
      ∀ {η : Type} (subscriber : Subscriber η) (state : η),
        (∃ count, s.Reads (s.receive subscriber state).2.2 transport count ∧
          s.Accounted (s.receive subscriber state).2.2 ∧
          (s.receive subscriber state).2.1 =
            subscriber.after registration.router state (readsFrom transport count)) ∧
        ∀ limit, ∃ count, s.Reads (s.run limit subscriber state).2.2 transport count ∧
          s.Accounted (s.run limit subscriber state).2.2 ∧
          (s.run limit subscriber state).2.1 =
            subscriber.after registration.router state (readsFrom transport count)) ∧
    ∀ subscription other,
      (s.phase ≠ .active ∨ subscription.isEmpty = true →
        ∃ e, s.update subscription other = (.error e, s)) ∧
      (s.phase = .active → subscription.isEmpty = false → ∃ group client trace talk result,
        s.group? = some group ∧ s.client.network.Talk talk client.network ∧
        Http.Registers s.client.options group subscription.encodeBody talk result ∧
        s.update subscription other = (result.mapError fun cause => .update (.ofHttp cause),
          { s with client, trace, router := if result.isOk then other else s.router })) ∧
      ∀ e, (s.update subscription other).1 = .error e →
        let next := (s.update subscription other).2
        s.Like next ∧ ∀ {η : Type} (subscriber : Subscriber η) (state : η),
          (next.receive subscriber state).1 = (s.receive subscriber state).1 ∧
          (next.receive subscriber state).2.1 = (s.receive subscriber state).2.1 ∧
          ∀ limit, (next.run limit subscriber state).1 = (s.run limit subscriber state).1 ∧
            (next.run limit subscriber state).2.1 = (s.run limit subscriber state).2.1 := by
  intro after s
  -- the invariant: an open session agrees with the last registration among the replies so far
  have hregistered : s.Registered client router (calls.zip after.1) := by
    have hfresh : (create client router connector options : Session κ τ).Registered client router
        [] := ⟨fun _ => ⟨rfl, rfl⟩, fun h => by cases h⟩
    simpa using performAll_keeps_past (P := fun past s => s.Registered client router past)
      (fun _ _ call h => h.perform call) calls hfresh
  refine ⟨fun hactive => ?_, fun subscription other =>
    ⟨fun hrefused => update_refused hrefused other, fun hactive hsome => ?_, fun e he => ?_⟩⟩
  · obtain ⟨registration, group, talk, hlatest, hagrees⟩ := hregistered.active hactive
    obtain ⟨transport, ht⟩ := Option.isSome_iff_exists.mp hagrees.transport
    refine ⟨registration, group, talk, transport, hlatest, hagrees,
      fun last hlast hwhole => hagrees.last_accepted hlast hwhole, ht, fun subscriber state => ?_⟩
    obtain ⟨count, hreads, hstate⟩ := receive_reads hactive hagrees.holds ht subscriber state
    rw [← hagrees.routes]
    refine ⟨⟨count, hreads, s.receive_accounted subscriber state, hstate⟩, fun limit => ?_⟩
    obtain ⟨count, hreads, hstate⟩ := run_reads hactive hagrees.holds ht limit subscriber state
    exact ⟨count, hreads, s.run_accounted limit subscriber state, hstate⟩
  · obtain ⟨registration, group, talk, -, hagrees⟩ := hregistered.active hactive
    obtain ⟨client', more, result, -, htalk, hregisters, hu⟩ :=
      update_registers hactive hsome hagrees.holds other
    exact ⟨group, client', _, more, result, hagrees.holds, htalk, hregisters, hu⟩
  · have hlike : s.Like (s.update subscription other).2 := s.update_like he
    refine ⟨hlike, fun subscriber state => ?_⟩
    obtain ⟨houtcome, hstate, -⟩ := hlike.receive subscriber state
    exact ⟨houtcome, hstate, fun limit => hlike.run limit subscriber state⟩

/-- A client whose controller creates a group and is busy when its resources are replaced at
first. -/
def replacingClient : Http.Client :=
  { grantingClient with
    network := { outcomes := [.ok { status := 201, location := some "/poll/1" },
      .ok { status := 503 }, .ok { status := 204 }] } }

def replacement : Registration :=
  ⟨⟨[⟨"/rw/iosystem/signals/DI2;state", .high⟩]⟩, ⟨[.ioSignal "DI2"]⟩⟩

/-- A session is opened, and its resources are replaced in vain and then with success. -/
def replacingCalls : List Call :=
  [.start ⟨[⟨"/rw/panel/ctrlstate", .low⟩]⟩, .update ⟨[⟨"/rw/panel/speedratio", .low⟩]⟩ ⟨[]⟩,
    .update replacement.subscription replacement.router]

def replacing : Session TapePlayer Tape :=
  Session.create replacingClient {} {} { pollInterval := .ofMilliseconds 500 }

/-- The session is registered for the replacement that succeeded. -/
theorem replacement_is_registered :
    (replacing.performAll replacingCalls).2.phase = .active ∧
      (replacing.performAll replacingCalls).2.router = ⟨[.ioSignal "DI2"]⟩ ∧
      ∃ group talk, (replacing.performAll replacingCalls).2.Agrees replacingClient replacement
        group talk := by
  -- about all calls at first, since a session that runs given ones is unfolded too far
  have hagrees : ∀ calls, (replacing.performAll calls).2.phase = .active →
      ∃ registration group talk,
        latestRegistration? {} (calls.zip (replacing.performAll calls).1) = some registration ∧
        (replacing.performAll calls).2.Agrees replacingClient registration group talk := by
    intro calls hactive
    obtain ⟨registration, group, talk, transport, hlatest, hagrees, -⟩ :=
      (routing_follows_registration replacingClient {} ({} : TapePlayer)
        { pollInterval := .ofMilliseconds 500 } calls).1 hactive
    exact ⟨registration, group, talk, hlatest, hagrees⟩
  have hrun : ((replacing.performAll replacingCalls).2.phase,
      latestRegistration? {} (replacingCalls.zip (replacing.performAll replacingCalls).1)) =
        (.active, some replacement) := by cbv
  obtain ⟨hactive, hlatest⟩ := Prod.mk.inj hrun
  obtain ⟨registration, group, talk, hregistration, h⟩ := hagrees replacingCalls hactive
  obtain rfl : replacement = registration :=
    Option.some.inj (hlatest.symm.trans hregistration)
  exact ⟨hactive, h.routes, group, talk, h⟩

/-- The state of the panel, with a router that knows nothing of it. -/
def panelState : Registration :=
  ⟨⟨[⟨"/rw/panel/ctrlstate", .low⟩]⟩, {}⟩

def groupCreated : Http.Answer :=
  { status := 201, location := some "/poll/1" }

def updateCutOff : Http.Answer :=
  { status := 200, bodyFault? := some "unexpected end of file" }

/-- A client whose controller creates a group and replaces its resources, but is cut off while it
says so. -/
def partingClient : Http.Client :=
  { grantingClient with network := { outcomes := [.ok groupCreated, .ok updateCutOff] } }

/-- A form as it is handed to that controller. -/
def handedOver (method : Http.Method) (path : List String) (subscription : Subscription) :
    Http.Request :=
  ⟨method, { partingClient.options.baseUrl with path := .segments path },
    some subscription.encodeBody, partingClient.authorization, none⟩

def partingTalk : List Http.Exchange :=
  [⟨handedOver .post ["subscription"] panelState.subscription, .ok groupCreated⟩,
    ⟨handedOver .put ["subscription", "1"] replacement.subscription, .ok updateCutOff⟩]

def partingCalls : List Call :=
  [.start panelState.subscription, .update replacement.subscription replacement.router]

/-- A session is opened, and the controller is cut off while it answers that it has replaced the
resources: the update fails, and the session stays open with its first router. The form that the
controller has accepted last is the one of the update. -/
theorem broken_answer_parts_routing :
    let fresh : Session TapePlayer Tape :=
      Session.create partingClient panelState.router {} { pollInterval := .ofMilliseconds 500 }
    let after := fresh.performAll partingCalls
    after.1 = [.started (.ok ()),
      .updated (.error (.update (.ofHttp (.transport "unexpected end of file"))))] ∧
    after.2.phase = .active ∧ after.2.group? = some "1" ∧ after.2.router = panelState.router ∧
    ∃ talk last, partingClient.network.Talk talk after.2.client.network ∧
      (Http.registrations partingClient.options "1" talk).getLast? = some last ∧
      last.request.body = some replacement.subscription.encodeBody ∧
      last.request.body ≠ some panelState.subscription.encodeBody := by
  intro fresh after
  have hrun : (after.1, after.2.phase, after.2.group?, after.2.router, after.2.client.network) =
      ([.started (.ok ()),
        .updated (.error (.update (.ofHttp (.transport "unexpected end of file"))))],
        .active, some "1", panelState.router, ⟨[], partingTalk.map (·.request)⟩) := by cbv
  simp only [Prod.mk.injEq] at hrun
  obtain ⟨hreplies, hactive, hgroup, hrouter, hnetwork⟩ := hrun
  have htalk : partingClient.network.Talk partingTalk after.2.client.network := by
    rw [hnetwork]
    exact .exchange _ (.exchange _ (.silent _))
  -- both answers are acceptances, the one that breaks off among them
  have haccepted : Http.registrations partingClient.options "1" partingTalk = partingTalk := by cbv
  have hdiffer : replacement.subscription.encodeBody ≠ panelState.subscription.encodeBody := by
    decide +kernel
  exact ⟨hreplies, hactive, hgroup, hrouter, partingTalk, _, htalk,
    congrArg List.getLast? haccepted, rfl, fun h => hdiffer (Option.some.inj h)⟩

end Stream

end RobotWeb
