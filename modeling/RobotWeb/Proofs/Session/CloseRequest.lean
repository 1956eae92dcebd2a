import RobotWeb.Proofs.Session.Account
import RobotWeb.Proofs.Session.Reader

/-!
# Requests to close

A request to close is never taken back, and from then on a reader does little more. A receive that
has not looked yet, or begins later, shuts the session down without a wait. One that has looked
already makes the one wait that it is about, and what the wait brings decides. All this holds
wherever the reader is when somebody asks, and however many others ask before or later.

* `Read.askedOutcome`       — what a receive tells of a read, if somebody has asked by then.
* `Session.performAll_requested` — no call takes a request back.
* `Steps.waits_le`, `Steps.leaves` — the waits and the events that are still to come.
* `Steps.due`               — what the receive on its way returns.
* `Closing`                 — a reader that has begun no receive since somebody asked.
* `close_request_is_heeded` — all of it, for every session that calls can lead to.
-/

namespace RobotWeb.Stream

/-- What a receive tells of a read that was made on a session which is asked to close by the time
the read is judged. -/
def Read.askedOutcome (router : Router) : Read → Except SessionError Received
  | .ok (.frame frame) =>
    if frame.opcode = .close then .ok .closed
    else if frame.opcode.isData then
      match ParsedFrame.parse frame.content with
      | .error e => .error (.frame e)
      | .ok parsed =>
        match router.decodeAll parsed.fragments with
        | .error e => .error (.frame e)
        | .ok events => .ok (.delivered events.length)
    else .ok .idle
  | .ok .idle | .ok .closed => .ok .closed
  | .error e => .error (.transport e)

namespace Session

variable {κ τ η : Type} {s : Session κ τ}

/-- What a receive tells of a frame does not depend on the request: only an idle read is told
otherwise. -/
theorem deliver_of_requested [FrameTransport τ] (subscriber : Subscriber η) (state : η)
    (frame : Frame) :
    (s.deliver subscriber state frame).1 = Read.askedOutcome s.router (.ok (.frame frame)) := by
  by_cases hclose : frame.opcode = .close
  · simp [deliver, Read.askedOutcome, hclose]
  · cases hdata : frame.opcode.isData with
    | false => simp [deliver, Read.askedOutcome, hclose, hdata]
    | true =>
      cases hp : ParsedFrame.parse frame.content with
      | error e => simp [deliver, Read.askedOutcome, hclose, hdata, hp, reject]
      | ok parsed =>
        cases hd : s.router.decodeAll parsed.fragments with
        | error e =>
          simp [deliver, Read.askedOutcome, hclose, hdata, hp, Router.deliverFrame, hd, reject]
        | ok events =>
          simp [deliver, Read.askedOutcome, hclose, hdata, hp, Router.deliverFrame, hd]

/-- What a receive tells of a read once somebody has asked. -/
theorem conclude_of_requested [FrameTransport τ] (hr : s.closeRequested = true)
    (subscriber : Subscriber η) (state : η) (read : Read) :
    (s.conclude subscriber state read).1 = read.askedOutcome s.router := by
  match read with
  | .ok (.frame frame) => exact deliver_of_requested subscriber state frame
  | .ok .idle => simp [conclude, hr, Read.askedOutcome]
  | .ok .closed => rfl
  | .error e => rfl

/-- The group was deleted, the stream was closed, and nothing else was done. These two effects are
what was added to the trace, and what took place outside: the exchanges of one request, which
deletes the group, and one closing of the stream that was open. -/
structure ClosedInOrder [FrameTransport τ] [StreamConnector κ τ] (s s' : Session κ τ) : Prop where
  phase : s'.phase = .closed
  group : s'.group? = none
  transport : s'.transport? = none
  effects : ∃ group deleted closed, s.group? = some group ∧
    s'.trace = s.trace ++ [.unsubscribe group deleted, .closeStream closed] ∧
    Outside.DoesAll s.client.options s.options s.outside
      [.unsubscribe group deleted, .closeStream closed] s'.outside

-- ---------------------------------------------------------------------------
-- No call takes a request back
-- ---------------------------------------------------------------------------

theorem update_requested (s : Session κ τ) (subscription : Subscription) (router : Router) :
    (s.update subscription router).2.closeRequested = s.closeRequested := by
  unfold update
  split
  · rfl
  · split
    · rfl
    · split
      · rfl
      · dsimp only
        split <;> rfl

variable [FrameTransport τ]

/-- A receive does not take the request back. -/
theorem receive_requested (h : s.closeRequested = true) (subscriber : Subscriber η) (state : η) :
    (s.receive subscriber state).2.2.closeRequested = true := by
  by_cases hp : s.phase = .active
  · rw [receive_of_requested hp h]
    exact s.shutDown_keeps.requested.trans h
  · by_cases hc : s.phase = .closed
    · rwa [receive_of_closed hc]
    · rwa [receive_of_misused hp hc]

/-- Nor does a run, which is one receive after the other. -/
theorem run_requested (h : s.closeRequested = true) (limit : Nat) (subscriber : Subscriber η)
    (state : η) : (s.run limit subscriber state).2.2.closeRequested = true := by
  induction limit generalizing s state with
  | zero => exact h
  | succ limit ih =>
    have hreceived := receive_requested h subscriber state
    rcases s.run_cases limit subscriber state with ⟨journal, hrun⟩ | hrun
    · rw [hrun]
      exact ih (s := (s.receive subscriber state).2.2.logged journal) hreceived _
    · rwa [hrun]

theorem close_requested (s : Session κ τ) : s.close.closeRequested = s.closeRequested := by
  unfold close
  split
  · rfl
  · exact s.shutDown_keeps.requested
  · rfl

theorem detach_requested (s : Session κ τ) : s.detach.2.closeRequested = s.closeRequested := by
  unfold detach
  split
  · rfl
  · exact s.closeStream_keeps.requested

variable [StreamConnector κ τ]

theorem connectTo_requested (s : Session κ τ) (locator : Locator) :
    (s.connectTo locator).2.closeRequested = s.closeRequested := by
  unfold connectTo
  split
  · rfl
  · exact (fail_keeps _).requested

theorem start_requested (s : Session κ τ) (subscription : Subscription) :
    (s.start subscription).2.closeRequested = s.closeRequested := by
  unfold start
  split
  · rfl
  · split
    · rfl
    · dsimp only
      split
      · rfl
      · split
        · exact (fail_keeps _).requested
        · exact connectTo_requested _ _

/-- No call takes a request back. -/
theorem perform_requested (h : s.closeRequested = true) (call : Call) :
    (s.perform call).2.closeRequested = true := by
  cases call with
  | start subscription => exact (s.start_requested subscription).trans h
  | receive subscriber state => exact receive_requested h subscriber state
  | run limit subscriber state => exact run_requested h limit subscriber state
  | update subscription router => exact (s.update_requested subscription router).trans h
  | close => exact s.close_requested.trans h
  | detach => exact s.detach_requested.trans h
  | requestClose => rfl

/-- So no calls do, one after the other. -/
theorem performAll_requested (h : s.closeRequested = true) (calls : List Call) :
    (s.performAll calls).2.closeRequested = true :=
  @performAll_keeps κ τ _ _ (fun _ s => s.closeRequested = true)
    (fun _ _ call h => perform_requested h call) calls [] s h

end Session

-- ---------------------------------------------------------------------------
-- The receive on its way
-- ---------------------------------------------------------------------------

/-- The waits that may still begin, once somebody has asked. -/
def Place.waitsLeft : Place → Nat
  | cleared => 1
  | _ => 0

/-- These reads may still be made and these events may still be handed over, once somebody has
asked. -/
def Place.Leaves (router : Router) : Place → List Read → List (Resource × Event) → Prop
  | outside, reads, events | entered, reads, events => reads = [] ∧ events = []
  | cleared, reads, events | waiting, reads, events =>
    reads.length ≤ 1 ∧ events <+: reads.flatMap (Read.eventsFor router)
  | judging read, reads, events => reads = [] ∧ events <+: read.eventsFor router
  | handing _ left, reads, events => reads = [] ∧ events <+: left

/-- The receive on its way returns this outcome after these reads, once somebody has asked. What was
judged before is returned as it was judged. -/
def Place.Due (router : Router) : Place → List Read → Except SessionError Received → Prop
  | outside, _, _ => False
  | entered, reads, outcome => reads = [] ∧ outcome = .ok .closed
  | cleared, reads, outcome | waiting, reads, outcome =>
    ∃ read, reads = [read] ∧ outcome = read.askedOutcome router
  | judging read, reads, outcome => reads = [] ∧ outcome = read.askedOutcome router
  | handing judged _, reads, outcome => reads = [] ∧ outcome = judged

theorem Place.Leaves.nil (router : Router) (place : Place) : place.Leaves router [] [] := by
  cases place with
  | outside | entered => exact ⟨rfl, rfl⟩
  | cleared | waiting => exact ⟨Nat.zero_le 1, List.nil_prefix⟩
  | judging | handing => exact ⟨rfl, List.nil_prefix⟩

namespace Reader

variable {κ τ η : Type} {r r' : Reader κ τ η} {router : Router}

/-- At most one read may still be made, and all events that may still be handed over are of one
read, which is that one if there is one. -/
theorem Sound.leaves_one (hs : r.Sound router) {reads : List Read}
    {events : List (Resource × Event)} (h : r.place.Leaves router reads events) :
    ∃ read : Read, reads <+: [read] ∧ events <:+: read.eventsFor router := by
  -- only a read that is still to be made is free; a read that was made is named by the place
  cases hplace : r.place with
  | outside | entered =>
    rw [hplace] at h
    obtain ⟨rfl, rfl⟩ := h
    exact ⟨.ok .closed, List.nil_prefix, List.nil_infix⟩
  | cleared | waiting =>
    rw [hplace] at h
    obtain ⟨hlength, hevents⟩ := h
    match reads with
    | [] => exact ⟨.ok .closed, List.nil_prefix, hevents.isInfix⟩
    | [read] =>
      rw [List.flatMap_singleton] at hevents
      exact ⟨read, List.prefix_rfl, hevents.isInfix⟩
    | _ :: _ :: _ => simp at hlength
  | judging read =>
    rw [hplace] at h
    obtain ⟨rfl, hevents⟩ := h
    exact ⟨read, List.nil_prefix, hevents.isInfix⟩
  | handing outcome left =>
    rw [hplace] at h
    obtain ⟨rfl, hevents⟩ := h
    obtain ⟨-, read, hleft⟩ := hs.told outcome left hplace
    exact ⟨read, List.nil_prefix, hevents.isInfix.trans hleft.isInfix⟩

variable [FrameTransport τ] {subscriber : Subscriber η} {mark : Mark} {marks : List Mark}

/-- No step of the reader takes a request back. -/
theorem Step.requested (hr : r.session.closeRequested = true) (h : Step subscriber mark r r') :
    r'.session.closeRequested = true := by
  cases h with
  | ask => rfl
  | leave => exact r.session.shutDown_keeps.requested.trans hr
  | judge => exact (r.session.conclude_keeps subscriber r.state _).requested.trans hr
  | note | enter | enterInVain | stay | begin | lack | hear | hand | finish => exact hr

/-- A receive that has not begun its wait yet may wait once, and any other not at all. -/
theorem Step.waits_le (hr : r.session.closeRequested = true) (h : Step subscriber mark r r') :
    r'.session.trace.count .receive + r'.place.waitsLeft ≤
      r.session.trace.count .receive + r.place.waitsLeft := by
  cases h with
  | leave hplace => simp [r.session.shutDown_keeps.waits, Place.waitsLeft]
  | judge hplace =>
    simp [(r.session.conclude_keeps subscriber r.state _).waits, Place.waitsLeft]
  | stay hplace hnot => simp [hr] at hnot
  | begin hplace => simp [Session.record, hplace, Place.waitsLeft]
  | ask | note => exact Nat.le_refl _
  | enter | enterInVain | lack | hear | hand | finish => simp [Place.waitsLeft]

/-- The session stays asked to close, whatever the reader does. -/
theorem Steps.requested (hr : r.session.closeRequested = true)
    (h : Steps subscriber r marks r') : r'.session.closeRequested = true := by
  induction h with
  | refl => exact hr
  | step hs _ ih => exact ih (hs.requested hr)

/-- So at most one more wait begins, and that only in a receive that has looked already. -/
theorem Steps.waits_le (hr : r.session.closeRequested = true) (h : Steps subscriber r marks r') :
    r'.session.trace.count .receive + r'.place.waitsLeft ≤
      r.session.trace.count .receive + r.place.waitsLeft := by
  induction h with
  | refl => exact Nat.le_refl _
  | step hs _ ih => exact (ih (hs.requested hr)).trans (hs.waits_le hr)

/-- What a step reads and hands over, with what may be read and handed over after it, may be read
and handed over before it. -/
theorem Step.leaves (hr : r.session.closeRequested = true) (hs : r.Sound router)
    (h : Step subscriber mark r r') {reads : List Read} {events : List (Resource × Event)}
    (hlater : r'.place.Leaves router reads events) :
    r.place.Leaves router (Mark.heardIn [mark] ++ reads) (Mark.handedIn [mark] ++ events) := by
  -- in a session that is asked to close, so that the step that looks and goes on is impossible
  cases h with
  | ask | note => exact hlater
  | enter hplace | begin hplace => rwa [hplace]
  | enterInVain hplace | leave hplace =>
    rw [hplace]
    exact ⟨hlater.1, List.prefix_nil.mp hlater.2⟩
  | stay hplace hnot => simp [hr] at hnot
  | lack hplace | hear hplace =>
    obtain ⟨rfl, hevents⟩ := hlater
    rw [hplace]
    exact ⟨Nat.le_refl 1, by simpa [Mark.heardIn, Mark.handedIn] using hevents⟩
  | judge hplace =>
    rw [hplace]
    exact hs.routing ▸ hlater
  | hand hplace =>
    rw [hplace]
    exact ⟨hlater.1, List.cons_prefix_cons.mpr ⟨rfl, hlater.2⟩⟩
  | finish hplace =>
    rw [hplace]
    exact ⟨hlater.1, hlater.2 ▸ List.prefix_rfl⟩

/-- So what a run reads and hands over is what might still come: by induction from its end, since
what comes later has to be allowed for before. -/
theorem Steps.leaves (hr : r.session.closeRequested = true) (hs : r.Sound router)
    (h : Steps subscriber r marks r') :
    r.place.Leaves router (Mark.heardIn marks) (Mark.handedIn marks) := by
  induction h with
  | refl => exact .nil router _
  | @step _ _ _ mark marks hstep _ ih =>
    rw [Mark.heardIn_cons, Mark.handedIn_cons]
    exact hstep.leaves hr hs (ih (hstep.requested hr) (hs.step hstep))

/-- What the receive on its way returns, and where the session is then. -/
theorem Steps.due {outcome : Except SessionError Received} (hr : r.session.closeRequested = true)
    (hs : r.Sound router) (hplace : r.place ≠ .outside)
    (h : Steps subscriber r (marks ++ [.returned outcome]) r')
    (hfirst : Mark.returnedIn marks = []) :
    r.place.Due router (Mark.heardIn marks) outcome ∧ Tells outcome r'.session.phase := by
  -- over the steps up to the return; each place says what is due from it
  induction marks generalizing r with
  | nil =>
    obtain _ | ⟨hstep, hrest⟩ := h
    cases hrest
    cases hstep with
    | finish hhanding =>
      rw [hhanding]
      exact ⟨⟨rfl, rfl⟩, (hs.told _ _ hhanding).1⟩
  | cons mark marks ih =>
    obtain _ | ⟨hstep, hrest⟩ := h
    have hnext := ih (hstep.requested hr) (hs.step hstep)
    cases hstep with
    | ask => exact hnext hplace hrest hfirst
    | note _ houtside | enter houtside | enterInVain houtside => exact absurd houtside hplace
    | leave hentered =>
      rw [hentered]
      exact hnext (by simp) hrest hfirst
    | stay _ hnot => simp [hr] at hnot
    | begin hcleared =>
      rw [hcleared]
      exact hnext (by simp) hrest hfirst
    | lack hcleared =>
      obtain ⟨⟨hreads, hdue⟩, htells⟩ := hnext (by simp) hrest hfirst
      rw [hcleared]
      exact ⟨⟨_, congrArg (_ :: ·) hreads, hdue⟩, htells⟩
    | hear hwaiting =>
      obtain ⟨⟨hreads, hdue⟩, htells⟩ := hnext (by simp) hrest hfirst
      rw [hwaiting]
      exact ⟨⟨_, congrArg (_ :: ·) hreads, hdue⟩, htells⟩
    -- an idle read is judged with the flag set, and says closed
    | judge hjudging =>
      obtain ⟨⟨hreads, hdue⟩, htells⟩ := hnext (by simp) hrest hfirst
      rw [hjudging]
      rw [Session.conclude_of_requested hr, hs.routing] at hdue
      exact ⟨⟨hreads, hdue⟩, htells⟩
    | hand hhanding =>
      rw [hhanding]
      exact hnext (by simp) hrest hfirst
    | finish => cases hfirst

/-- The reader alone gets its receive to return. -/
def Returns (subscriber : Subscriber η) (r : Reader κ τ η) : Prop :=
  ∃ marks outcome r', Steps subscriber r (marks ++ [.returned outcome]) r' ∧
    Mark.returnedIn marks = [] ∧ .asked ∉ marks

/-- A receive that returns from where some steps lead returns from where they begin. -/
theorem Returns.after (h : Returns subscriber r') (hs : Steps subscriber r marks r')
    (hmarks : Mark.returnedIn marks = [] ∧ .asked ∉ marks) :
    Returns subscriber r := by
  obtain ⟨rest, outcome, last, hrest, hreturned, hasked⟩ := h
  refine ⟨marks ++ rest, outcome, last, ?_, ?_, by simp [hmarks.2, hasked]⟩
  · rw [List.append_assoc]
    exact hs.append hrest
  · rw [Mark.returnedIn_append, hmarks.1, hreturned]
    rfl

/-- What is left to hand over is handed over, event by event. -/
theorem returns_of_handing (session : Session κ τ) (state : η)
    (outcome : Except SessionError Received) (left : List (Resource × Event)) :
    Returns subscriber ⟨session, state, .handing outcome left⟩ :=
  ⟨_, outcome, _, (handing_steps session state outcome left).append (.step (.finish rfl) (.refl _)),
    by simp [Mark.returnedIn, List.filterMap_map], by simp⟩

/-- A read is judged in one step. -/
theorem returns_of_judging (session : Session κ τ) (state : η) (read : Read) :
    Returns subscriber ⟨session, state, .judging read⟩ :=
  (returns_of_handing _ _ _ _).after (.step (.judge rfl) (.refl _)) ⟨rfl, by simp⟩

/-- A wait ends, whatever it brings. -/
theorem returns_of_waiting (session : Session κ τ) {transport : τ}
    (ht : session.transport? = some transport) (state : η) :
    Returns subscriber ⟨session, state, .waiting⟩ := by
  obtain ⟨⟨wait, left⟩, hw⟩ : ∃ heard, FrameTransport.receive transport = heard := ⟨_, rfl⟩
  exact (returns_of_judging _ _ _).after (.step (.hear rfl ht hw) (.refl _)) ⟨rfl, by simp⟩

/-- A receive that has looked waits, or finds that there is no stream. -/
theorem returns_of_cleared (session : Session κ τ) (state : η) :
    Returns subscriber ⟨session, state, .cleared⟩ := by
  rcases Option.eq_none_or_eq_some session.transport? with ht | ⟨transport, ht⟩
  · exact (returns_of_judging _ _ _).after (.step (.lack rfl ht) (.refl _)) ⟨rfl, by simp⟩
  · exact (returns_of_waiting (session.record .receive) ht state).after
      (.step (.begin rfl ht) (.refl _)) ⟨rfl, by simp⟩

/-- A receive on its way is never stuck. -/
theorem Sound.returns (hs : r.Sound router) (hplace : r.place ≠ .outside) :
    Returns subscriber r := by
  obtain ⟨session, state, place⟩ := r
  cases place with
  | outside => exact absurd rfl hplace
  | entered =>
    cases hr : session.closeRequested with
    | true =>
      exact (returns_of_handing _ _ _ _).after (.step (.leave rfl hr) (.refl _)) ⟨rfl, by simp⟩
    | false => exact (returns_of_cleared _ _).after (.step (.stay rfl hr) (.refl _)) ⟨rfl, by simp⟩
  | cleared => exact returns_of_cleared session state
  | waiting =>
    obtain ⟨-, transport, ht⟩ := hs.held (hs.active rfl)
    exact returns_of_waiting session ht state
  | judging read => exact returns_of_judging session state read
  | handing outcome left => exact returns_of_handing session state outcome left

-- ---------------------------------------------------------------------------
-- Receives that begin later
-- ---------------------------------------------------------------------------

variable [StreamConnector κ τ]

/-- A reader that has begun no receive on the session since somebody asked: the session is as it
was, or the first receive has shut it down. -/
inductive Closing (s : Session κ τ) (r : Reader κ τ η) : Prop where
  | still (place : r.place = .outside ∨ r.place = .entered) (group : r.session.group? = s.group?)
      (transport : r.session.transport? = s.transport?) (phase : r.session.phase = .active)
      (trace : r.session.trace = s.trace) (accounted : s.Accounted r.session)
  | done (place : r.place = .outside ∨ r.place = .handing (.ok .closed) [])
      (closed : s.ClosedInOrder r.session)

variable {s next : Session κ τ} {group : String} {transport : τ}

/-- Such a reader is at the beginning of a receive, at its end, or outside. -/
theorem Closing.places (h : Closing s r) :
    r.place = .outside ∨ r.place = .entered ∨ r.place = .handing (.ok .closed) [] := by
  cases h with
  | still place => exact place.imp id .inl
  | done place => exact place.imp id .inr

/-- Shutting down a session that has kept its group, its stream and its trace closes in order what
was open before. -/
theorem shutDown_closedInOrder (hg : s.group? = some group) (ht : s.transport? = some transport)
    (hgroup : next.group? = s.group?) (htransport : next.transport? = s.transport?)
    (htrace : next.trace = s.trace) (haccounted : s.Accounted next) :
    s.ClosedInOrder next.shutDown := by
  have hdone := haccounted.trans next.shutDown_accounted
  obtain ⟨client, deleted, hs⟩ :=
    Session.shutDown_of_open (hgroup.trans hg) (htransport.trans ht)
  rw [hs, htrace] at hdone ⊢
  exact ⟨rfl, rfl, rfl, group, deleted, _, hg, rfl, hdone.doesAll rfl⟩

/-- Nothing was waited for. -/
theorem Closing.waits_eq (h : Closing s r) :
    r.session.trace.count .receive = s.trace.count .receive := by
  cases h with
  | still _ _ _ _ trace => rw [trace]
  | done _ closed =>
    obtain ⟨group, deleted, shut, -, trace, -⟩ := closed.effects
    simp [trace]

/-- One step of the reader. Only `enter`, `leave` and `finish` move it, since the session is asked
to close: what others do in between changes nothing that closing in order is about. -/
theorem Closing.step (hr : r.session.closeRequested = true) (hg : s.group? = some group)
    (ht : s.transport? = some transport) (h : Closing s r) (hs : Step subscriber mark r r') :
    Closing s r' ∧ (s.ClosedInOrder r.session → s.ClosedInOrder r'.session) ∧
      ∀ outcome, mark = .returned outcome → outcome = .ok .closed ∧ s.ClosedInOrder r'.session := by
  have hplaces := h.places
  cases hs with
  | ask | note =>
    -- Neither the journal nor the request is part of what is closed.
    refine ⟨?_, fun hclosed => ⟨hclosed.phase, hclosed.group, hclosed.transport, hclosed.effects⟩,
      by simp⟩
    cases h with
    | still place group transport phase trace accounted =>
      exact .still place group transport phase trace (accounted.trans (.quiet rfl rfl rfl rfl))
    | done place closed =>
      exact .done place ⟨closed.phase, closed.group, closed.transport, closed.effects⟩
  | enter hplace hp =>
    refine ⟨?_, id, by simp⟩
    cases h with
    | still place group transport phase trace accounted =>
      exact .still (.inr rfl) group transport phase trace accounted
    | done place closed => cases closed.phase.symm.trans hp
  | enterInVain hplace hp =>
    refine ⟨?_, id, by simp⟩
    cases h with
    | still place group transport phase => exact absurd phase hp
    | done place closed => exact .done (.inr (by simp [closed.phase])) closed
  | leave hplace =>
    -- The one step that shuts the session down, which it finds as it was.
    have hclosed : s.ClosedInOrder r.session.shutDown := by
      cases h with
      | still place group transport phase trace accounted =>
        exact shutDown_closedInOrder hg ht group transport trace accounted
      | done place => simp [hplace] at place
    exact ⟨.done (.inr rfl) hclosed, fun _ => hclosed, by simp⟩
  | stay _ hnot => simp [hr] at hnot
  | begin hplace | lack hplace | hear hplace | judge hplace | hand hplace =>
    simp [hplace] at hplaces
  | finish hplace =>
    cases h with
    | still place => simp [hplace] at place
    | done place closed =>
      rw [hplace] at place
      obtain ⟨rfl, -⟩ := Place.handing.inj (place.resolve_left (by simp))
      refine ⟨.done (.inl rfl) closed, id, fun outcome heq => ?_⟩
      obtain rfl := Mark.returned.inj heq
      exact ⟨rfl, closed⟩

/-- Any number of steps. Once the session is closed in order it stays so, so that each receive that
returns tells it. -/
theorem Closing.steps (hr : r.session.closeRequested = true) (hg : s.group? = some group)
    (ht : s.transport? = some transport) (h : Closing s r) (hs : Steps subscriber r marks r') :
    Closing s r' ∧ (s.ClosedInOrder r.session → s.ClosedInOrder r'.session) ∧
      ∀ outcome, .returned outcome ∈ marks →
        outcome = .ok .closed ∧ s.ClosedInOrder r'.session := by
  induction hs with
  | refl => exact ⟨h, id, by simp⟩
  | step hstep _ ih =>
    obtain ⟨hnext, hstays, hreturned⟩ := h.step hr hg ht hstep
    obtain ⟨hlast, hlater, hothers⟩ := ih (hstep.requested hr) hnext
    refine ⟨hlast, hlater ∘ hstays, fun outcome houtcome => ?_⟩
    rcases List.mem_cons.mp houtcome with heq | houtcome
    · obtain ⟨rfl, hclosed⟩ := hreturned outcome heq.symm
      exact ⟨rfl, hlater hclosed⟩
    · exact hothers outcome houtcome

/-- A session that is open with somebody asking is closed in order by the next receive or run. -/
theorem receive_closes (hr : s.closeRequested = true) (hp : s.phase = .active)
    (hg : s.group? = some group) (ht : s.transport? = some transport) (subscriber : Subscriber η)
    (state : η) :
    ∃ next, s.ClosedInOrder next ∧ s.receive subscriber state = (.ok .closed, state, next) ∧
      ∀ limit, s.run (limit + 1) subscriber state = (some (.ok ()), state, next) :=
  have hreceive := Session.receive_of_requested hp hr subscriber state
  ⟨s.shutDown, shutDown_closedInOrder hg ht rfl rfl rfl (.refl s), hreceive,
    Session.run_of_closed hreceive⟩

end Reader

open Reader in
/-- **A request to close is heeded.** Take a session that calls can lead to, with one thread that
reads from it by receives and runs, and requests to close from anybody between any two of its steps.
Once the session is asked to close, wherever the reader is by then, it stays asked to close, at most
one more wait begins, and that only in a receive which has looked already and found nobody asking,
and all events that are handed over are of one frame. The receive on its way returns what its read
says, and an idle read says that the session is closed, unless it was judged before. A receive that
begins later on a session that is still open waits for nothing, hands nothing over, and returns that
the session is closed, which has deleted its group and closed its stream once: by the exchanges of
one request with the controller, and by one closing of the stream that the session held. No call
takes the request back. -/
theorem close_request_is_heeded {κ τ η : Type} [FrameTransport τ] [StreamConnector κ τ]
    {s : Session κ τ} (hs : s.Reached) {subscriber : Subscriber η} {state : η} {past : List Mark}
    {r : Reader κ τ η} (hpast : Steps subscriber ⟨s, state, .outside⟩ past r)
    (hasked : r.session.closeRequested = true) :
    ((∃ marks, Steps subscriber ⟨s, state, .outside⟩ marks
          ⟨(s.receive subscriber state).2.2, (s.receive subscriber state).2.1, .outside⟩ ∧
        Mark.returnedIn marks = [(s.receive subscriber state).1]) ∧
      ∀ limit, ∃ marks, Steps subscriber ⟨s, state, .outside⟩ marks
          ⟨(s.run limit subscriber state).2.2, (s.run limit subscriber state).2.1, .outside⟩ ∧
        ∀ verdict, (s.run limit subscriber state).1 = some verdict →
          Mark.verdict? marks = some verdict) ∧
    (∀ marks r', Steps subscriber r marks r' →
      r'.session.closeRequested = true ∧
      r'.session.trace.count .receive ≤ r.session.trace.count .receive + r.place.waitsLeft ∧
      r'.state = Router.handleAll subscriber.handle r.state (Mark.handedIn marks) ∧
      ∃ read : Read, Mark.heardIn marks <+: [read] ∧
        Mark.handedIn marks <:+: read.eventsFor s.router) ∧
    (r.place ≠ .outside →
      Returns subscriber r ∧
      ∀ marks outcome r', Steps subscriber r (marks ++ [.returned outcome]) r' →
        Mark.returnedIn marks = [] →
        r.place.Due s.router (Mark.heardIn marks) outcome ∧ Tells outcome r'.session.phase) ∧
    (r.place = .outside → r.session.phase = .active →
      (∃ next, r.session.ClosedInOrder next ∧
        r.session.receive subscriber r.state = (.ok .closed, r.state, next) ∧
        ∀ limit, r.session.run (limit + 1) subscriber r.state = (some (.ok ()), r.state, next)) ∧
      ∀ marks r', Steps subscriber r marks r' →
        r'.session.trace.count .receive = r.session.trace.count .receive ∧
        Mark.handedIn marks = [] ∧
        ∀ outcome, .returned outcome ∈ marks →
          outcome = .ok .closed ∧ r.session.ClosedInOrder r'.session) ∧
    ∀ calls, (r.session.performAll calls).2.closeRequested = true := by
  -- the invariant of the reader holds after every step, whoever takes it
  have hsound : r.Sound s.router := (sound_of_reached hs state).steps hpast
  refine ⟨⟨receive_steps s subscriber state, fun limit => run_steps limit s subscriber state⟩,
    fun marks r' hsteps => ?_, fun hplace => ⟨hsound.returns hplace, fun marks outcome r' hsteps
      hfirst => hsteps.due hasked hsound hplace hfirst⟩,
    fun hplace hp => ?_, fun calls => Session.performAll_requested hasked calls⟩
  · exact ⟨hsteps.requested hasked, (Nat.le_add_right _ _).trans (hsteps.waits_le hasked),
      hsteps.state_eq, hsound.leaves_one (hsteps.leaves hasked hsound)⟩
  · obtain ⟨⟨group, hg⟩, transport, ht⟩ := hsound.held hp
    refine ⟨receive_closes hasked hp hg ht subscriber r.state, fun marks r' hsteps => ?_⟩
    have hleaves := hsteps.leaves hasked hsound
    rw [hplace] at hleaves
    -- outside of a receive nothing has been looked at, so that the next look finds the request
    have hstill : Closing r.session r := .still (.inl hplace) rfl rfl hp rfl (.refl _)
    obtain ⟨hclosing, -, hreturned⟩ := hstill.steps hasked hg ht hsteps
    exact ⟨hclosing.waits_eq, hleaves.2, hreturned⟩

def quietTape : Tape :=
  { waits := [⟨.ok .idle, false, false⟩, ⟨.ok (.frame ⟨0x89, ""⟩), false, false⟩] }

/-- Somebody asks during an idle wait, somebody else asks before the wait is judged, and the receive
tells that the session is closed. -/
theorem asked_during_idle_wait :
    let subscriber : Subscriber Nat := { handle := fun n _ _ => n + 1 }
    ∃ asked : Reader TapePlayer Tape Nat,
      Reader.Steps subscriber ⟨playing quietTape, 0, .outside⟩ [.entered, .looked, .began, .asked]
        asked ∧
      (∃ outcome last, Reader.Steps subscriber asked
        [.heard (.ok .idle), .asked, .judged, .returned outcome] last) ∧
      ∀ outcome last, Reader.Steps subscriber asked
          [.heard (.ok .idle), .asked, .judged, .returned outcome] last →
        outcome = .ok .closed ∧ last.session.phase = .closed ∧ last.state = 0 := by
  intro subscriber
  have hreached : (playing quietTape).Reached := playing_reached quietTape {}
  obtain ⟨hactive, hrequested, htape, -⟩ := playing_opened quietTape {}
  -- nothing more is used of the session, which is not to be evaluated again
  generalize playing quietTape = s at hreached hactive hrequested htape ⊢
  have hpast : Reader.Steps subscriber ⟨s, 0, .outside⟩ [.entered, .looked, .began, .asked]
      ⟨(s.record .receive).requestClose, 0, .waiting⟩ :=
    .step (.enter rfl hactive) (.step (.stay rfl hrequested) (.step (.begin rfl htape)
      (.step (.ask _) (.refl _))))
  obtain ⟨-, hall, hdue, -⟩ := close_request_is_heeded hreached hpast rfl
  have hread : FrameTransport.receive quietTape =
      (⟨.ok .idle, false, false⟩, { waits := [⟨.ok (.frame ⟨0x89, ""⟩), false, false⟩] }) := rfl
  let heard : Session TapePlayer Tape := { (s.record .receive).requestClose with
    transport? := some { waits := [⟨.ok (.frame ⟨0x89, ""⟩), false, false⟩] } }
  have hheard : Reader.Steps subscriber ⟨(s.record .receive).requestClose, 0, .waiting⟩
      [.heard (.ok .idle), .asked] ⟨heard.requestClose, 0, .judging (.ok .idle)⟩ :=
    .step (.hear rfl htape hread) (.step (.ask ⟨heard, 0, .judging (.ok .idle)⟩) (.refl _))
  have hjudged : Reader.Steps subscriber ⟨heard.requestClose, 0, .judging (.ok .idle)⟩ _ _ :=
    Reader.judging_steps heard.requestClose 0 (.ok .idle)
  refine ⟨_, hpast, ⟨_, _, hheard.append (hjudged.append (.step (.finish rfl) (.refl _)))⟩,
    fun outcome last hsteps => ?_⟩
  obtain ⟨⟨read, hread, houtcome⟩, htells⟩ := (hdue (by simp)).2
    [.heard (.ok .idle), .asked, .judged] outcome last hsteps rfl
  obtain rfl : .ok .idle = read := (List.cons.inj hread).1
  obtain rfl : outcome = .ok .closed := houtcome
  exact ⟨rfl, htells.phase_of_closed, (hall _ last hsteps).2.2.1⟩

end RobotWeb.Stream
