import RobotWeb.Proofs.Session.Phases

/-!
# A reader among other threads

One thread reads from a session, receive after receive, while any number of others may ask the
session to close at any time. A receive looks at the request twice: before it waits, and after a
wait that brought nothing. Here each look, each wait and each event that is handed over is a step of
its own, and between any two steps somebody may ask. Who asks is left open: the handler of the
events may do so too.

* `Reader.Step`, `Reader.Steps` — one step of the reader or of one who asks, and any number of
  steps.
* `Reader.receive_steps`, `Reader.run_steps` — a receive and a run are made of such steps.
* `Reader.Sound`                — the invariant, kept by every step.
-/

namespace RobotWeb.Stream

/-- Where the reader is. -/
inductive Place where
  | outside
  /-- A receive has begun on an open session; it will look whether it is asked to close. -/
  | entered
  /-- Nobody had asked; a wait will begin. -/
  | cleared
  | waiting
  /-- The wait is over, and what it has brought will be judged. -/
  | judging (read : Read)
  /-- The receive will return this outcome, after these events have been handed over. -/
  | handing (outcome : Except SessionError Received) (left : List (Resource × Event))

/-- A receive on an open session is on its way, and the wait has not been judged yet. -/
def Place.isBusy : Place → Bool
  | entered | cleared | waiting | judging _ => true
  | outside | handing .. => false

/-- What the outcome of a receive tells of the phase of its session. -/
inductive Tells : Except SessionError Received → Phase → Prop where
  | closed : Tells (.ok .closed) .closed
  | failed (e : TransportError) : Tells (.error (.transport e)) .failed
  | goesOn {outcome : Except SessionError Received} (h : Session.staysOpen outcome = true) :
      Tells outcome .active
  | misused {operation : String} {phase : Phase} (h : phase ≠ .active) (hc : phase ≠ .closed) :
      Tells (.error (.invalidState operation phase)) phase

/-- A session that is told to be closed is closed. -/
theorem Tells.phase_of_closed {phase : Phase} (h : Tells (.ok .closed) phase) :
    phase = .closed := by
  cases h with
  | closed => rfl
  | goesOn h => cases h

/-- What a step shows to the outside. -/
inductive Mark where
  /-- Somebody asks the session to close. -/
  | asked
  /-- The reader writes to the journal between two receives. -/
  | noted
  /-- A receive begins. -/
  | entered
  /-- The receive looks whether it is asked to close. -/
  | looked
  /-- A wait begins. -/
  | began
  /-- The wait ends. -/
  | heard (read : Read)
  | judged
  | handed (event : Resource × Event)
  | returned (outcome : Except SessionError Received)

namespace Mark

/-- Somebody asks if `asked` says so. -/
def askedIf (asked : Bool) : List Mark :=
  if asked then [.asked] else []

/-- What the waits bring, in order. -/
def heardIn (marks : List Mark) : List Read :=
  marks.filterMap fun | .heard read => some read | _ => none

/-- The events that are handed over, in order. -/
def handedIn (marks : List Mark) : List (Resource × Event) :=
  marks.filterMap fun | .handed event => some event | _ => none

/-- What the receives return, in order. -/
def returnedIn (marks : List Mark) : List (Except SessionError Received) :=
  marks.filterMap fun | .returned outcome => some outcome | _ => none

/-- What a receive that waits once shows: its wait and its events in order, and the requests to
close where the transport and the subscriber tell of them. -/
def ofWait (router : Router) (wait : Wait) (asks : Bool) (outcome : Except SessionError Received) :
    List Mark :=
  [entered, looked, began] ++ (askedIf wait.askedDuring ++ ([heard wait.read] ++
    (judged :: (Read.eventsFor router wait.read).map handed ++
      (askedIf (asks || wait.askedAfter) ++ [returned outcome]))))

/-- What a run tells that ends with these receives. -/
def verdict? (marks : List Mark) : Option (Except SessionError Unit) :=
  (returnedIn marks).getLast?.map (·.map fun _ => ())

theorem heardIn_cons (mark : Mark) (marks : List Mark) :
    heardIn (mark :: marks) = heardIn [mark] ++ heardIn marks := by
  rw [← List.singleton_append, heardIn, List.filterMap_append, heardIn, heardIn]

theorem handedIn_cons (mark : Mark) (marks : List Mark) :
    handedIn (mark :: marks) = handedIn [mark] ++ handedIn marks := by
  rw [← List.singleton_append, handedIn, List.filterMap_append, handedIn, handedIn]

theorem returnedIn_append (marks marks' : List Mark) :
    returnedIn (marks ++ marks') = returnedIn marks ++ returnedIn marks' :=
  List.filterMap_append

/-- What was returned before does not matter to the verdict. -/
theorem verdict?_append {marks : List Mark} {verdict : Except SessionError Unit}
    (h : verdict? marks = some verdict) (before : List Mark) :
    verdict? (before ++ marks) = some verdict := by
  obtain ⟨outcome, hlast, hverdict⟩ := Option.map_eq_some_iff.mp h
  rw [verdict?, returnedIn_append, List.getLast?_append, hlast]
  exact congrArg some hverdict

/-- A wait gives one outcome, whatever is marked on the way. -/
theorem returnedIn_ofWait (router : Router) (wait : Wait) (asks : Bool)
    (outcome : Except SessionError Received) :
    returnedIn (ofWait router wait asks outcome) = [outcome] := by
  rw [ofWait]
  cases wait.askedDuring <;> cases asks || wait.askedAfter <;>
    simp [askedIf, returnedIn, List.filterMap_map]

end Mark

/-- A session with the subscriber's state and the place of the thread that reads. -/
structure Reader (κ τ η : Type) where
  session : Session κ τ
  state : η
  place : Place := .outside

namespace Reader

variable {κ τ η : Type} [FrameTransport τ]

/-- One step. What a wait of the transport says of requests to close is not used, since these are
steps of their own. -/
inductive Step (subscriber : Subscriber η) : Mark → Reader κ τ η → Reader κ τ η → Prop where
  | ask (r : Reader κ τ η) :
      Step subscriber .asked r { r with session := r.session.requestClose }
  | note {r : Reader κ τ η} (journal : List Log.Record) (h : r.place = .outside) :
      Step subscriber .noted r { r with session := r.session.logged journal }
  | enter {r : Reader κ τ η} (h : r.place = .outside) (hp : r.session.phase = .active) :
      Step subscriber .entered r { r with place := .entered }
  | enterInVain {r : Reader κ τ η} (h : r.place = .outside) (hp : r.session.phase ≠ .active) :
      Step subscriber .entered r { r with
        place := .handing (if r.session.phase = .closed then .ok .closed
          else .error (r.session.misuse "receive")) [] }
  | leave {r : Reader κ τ η} (h : r.place = .entered) (hr : r.session.closeRequested = true) :
      Step subscriber .looked r { r with
        session := r.session.shutDown, place := .handing (.ok .closed) [] }
  | stay {r : Reader κ τ η} (h : r.place = .entered) (hr : r.session.closeRequested = false) :
      Step subscriber .looked r { r with place := .cleared }
  | begin {r : Reader κ τ η} {transport : τ} (h : r.place = .cleared)
      (ht : r.session.transport? = some transport) :
      Step subscriber .began r { r with session := r.session.record .receive, place := .waiting }
  | lack {r : Reader κ τ η} (h : r.place = .cleared) (ht : r.session.transport? = none) :
      Step subscriber (.heard (.ok .closed)) r { r with place := .judging (.ok .closed) }
  | hear {r : Reader κ τ η} {transport left : τ} {wait : Wait} (h : r.place = .waiting)
      (ht : r.session.transport? = some transport)
      (hw : FrameTransport.receive transport = (wait, left)) :
      Step subscriber (.heard wait.read) r { r with
        session := { r.session with transport? := some left }, place := .judging wait.read }
  | judge {r : Reader κ τ η} {read : Read} (h : r.place = .judging read) :
      Step subscriber .judged r { r with
        session := (r.session.conclude subscriber r.state read).2.2
        place := .handing (r.session.conclude subscriber r.state read).1
          (read.eventsFor r.session.router) }
  | hand {r : Reader κ τ η} {outcome : Except SessionError Received} {event : Resource × Event}
      {left : List (Resource × Event)} (h : r.place = .handing outcome (event :: left)) :
      Step subscriber (.handed event) r { r with
        state := subscriber.handle r.state event.1 event.2, place := .handing outcome left }
  | finish {r : Reader κ τ η} {outcome : Except SessionError Received}
      (h : r.place = .handing outcome []) :
      Step subscriber (.returned outcome) r { r with place := .outside }

/-- Any number of steps, with what they show. -/
inductive Steps (subscriber : Subscriber η) : Reader κ τ η → List Mark → Reader κ τ η → Prop where
  | refl (r : Reader κ τ η) : Steps subscriber r [] r
  | step {r r' r'' : Reader κ τ η} {mark : Mark} {marks : List Mark}
      (hs : Step subscriber mark r r') (h : Steps subscriber r' marks r'') :
      Steps subscriber r (mark :: marks) r''

variable {subscriber : Subscriber η} {r r' r'' : Reader κ τ η} {marks marks' : List Mark}

/-- Steps are put together. -/
theorem Steps.append (h : Steps subscriber r marks r') (h' : Steps subscriber r' marks' r'') :
    Steps subscriber r (marks ++ marks') r'' := by
  induction h with
  | refl => exact h'
  | step hs _ ih => exact .step hs (ih h')

-- ---------------------------------------------------------------------------
-- Receives and runs
-- ---------------------------------------------------------------------------

/-- The events of a frame are handed over one after the other. -/
theorem handing_steps (session : Session κ τ) (state : η)
    (outcome : Except SessionError Received) (left : List (Resource × Event)) :
    Steps subscriber ⟨session, state, .handing outcome left⟩ (left.map .handed)
      ⟨session, Router.handleAll subscriber.handle state left, .handing outcome []⟩ := by
  induction left generalizing state with
  | nil => exact .refl _
  | cons event left ih => exact .step (.hand rfl) (ih _)

/-- A wait is judged, and then its events are handed over. -/
theorem judging_steps (session : Session κ τ) (state : η) (read : Read) :
    Steps subscriber ⟨session, state, .judging read⟩
      (.judged :: (read.eventsFor session.router).map .handed)
      ⟨(session.conclude subscriber state read).2.2, (session.conclude subscriber state read).2.1,
        .handing (session.conclude subscriber state read).1 []⟩ := by
  have hstate := session.conclude_state subscriber state read
  rw [Subscriber.after, List.flatMap_singleton] at hstate
  rw [hstate]
  exact .step (.judge rfl) (handing_steps _ _ _ _)

/-- A request during a wait or during handling is a step of somebody else. -/
theorem asking_steps (r : Reader κ τ η) (asked : Bool) :
    Steps subscriber r (Mark.askedIf asked)
      { r with session :=
        { r.session with closeRequested := r.session.closeRequested || asked } } := by
  cases asked with
  | false => simpa [Mark.askedIf] using Steps.refl r
  | true =>
    rw [Bool.or_true]
    exact .step (.ask r) (.refl _)

/-- A receive that finds nobody asking, cut into its steps. -/
theorem receive_steps_of_open {s : Session κ τ} {transport left : τ} {wait : Wait}
    (hp : s.phase = .active) (hr : s.closeRequested = false) (ht : s.transport? = some transport)
    (hw : FrameTransport.receive transport = (wait, left)) (subscriber : Subscriber η) (state : η) :
    Steps subscriber ⟨s, state, .outside⟩
      (Mark.ofWait s.router wait (subscriber.asksToClose (s.receive subscriber state).2.1)
        (s.receive subscriber state).1)
      ⟨(s.receive subscriber state).2.2, (s.receive subscriber state).2.1, .outside⟩ := by
  obtain ⟨⟨outcome, state', next⟩, hc⟩ :
      ∃ c, (s.afterWait wait left).conclude subscriber state wait.read = c := ⟨_, rfl⟩
  have hentered : Steps subscriber ⟨s, state, .outside⟩ [.entered, .looked, .began]
      ⟨s.record .receive, state, .waiting⟩ :=
    .step (.enter rfl hp) (.step (.stay rfl hr) (.step (.begin rfl ht) (.refl _)))
  have hheard : Steps subscriber
      ⟨{ s.record .receive with closeRequested := s.closeRequested || wait.askedDuring }, state,
        .waiting⟩ [.heard wait.read] ⟨s.afterWait wait left, state, .judging wait.read⟩ :=
    .step (.hear rfl ht hw) (.refl _)
  have hjudged : Steps subscriber ⟨s.afterWait wait left, state, .judging wait.read⟩ _ _ :=
    judging_steps (s.afterWait wait left) state wait.read
  rw [hc] at hjudged
  rw [Session.receive_of_open hp hr ht hw, hc, Session.noteRequests, Bool.or_assoc]
  exact hentered.append ((asking_steps _ _).append (hheard.append (hjudged.append
    ((asking_steps _ _).append (.step (.finish rfl) (.refl _))))))

/-- A receive is made of steps, and returns once. -/
theorem receive_steps (s : Session κ τ) (subscriber : Subscriber η) (state : η) :
    ∃ marks, Steps subscriber ⟨s, state, .outside⟩ marks
        ⟨(s.receive subscriber state).2.2, (s.receive subscriber state).2.1, .outside⟩ ∧
      Mark.returnedIn marks = [(s.receive subscriber state).1] := by
  -- one list of marks for each way through a receive
  by_cases hp : s.phase = .active
  · cases hr : s.closeRequested with
    | true =>
      rw [Session.receive_of_requested hp hr]
      exact ⟨[.entered, .looked, .returned (.ok .closed)],
        .step (.enter rfl hp) (.step (.leave rfl hr) (.step (.finish rfl) (.refl _))), rfl⟩
    | false =>
      rcases Option.eq_none_or_eq_some s.transport? with ht | ⟨transport, ht⟩
      · rw [Session.receive_of_streamless hp hr ht]
        exact ⟨[.entered, .looked, .heard (.ok .closed), .judged, .returned (.ok .closed)],
          .step (.enter rfl hp) (.step (.stay rfl hr) (.step (.lack rfl ht) (.step (.judge rfl)
            (.step (.finish rfl) (.refl _))))), rfl⟩
      · obtain ⟨⟨wait, left⟩, hw⟩ : ∃ r, FrameTransport.receive transport = r := ⟨_, rfl⟩
        exact ⟨_, receive_steps_of_open hp hr ht hw subscriber state, Mark.returnedIn_ofWait ..⟩
  · have hvain : Step subscriber .entered ⟨s, state, .outside⟩ _ := .enterInVain rfl hp
    by_cases hc : s.phase = .closed
    · rw [Session.receive_of_closed hc]
      rw [if_pos hc] at hvain
      exact ⟨[.entered, _], .step hvain (.step (.finish rfl) (.refl _)), rfl⟩
    · rw [Session.receive_of_misused hp hc]
      rw [if_neg hc] at hvain
      exact ⟨[.entered, _], .step hvain (.step (.finish rfl) (.refl _)), rfl⟩

/-- A run is made of steps, and ends with what its last receive returns. -/
theorem run_steps (limit : Nat) (s : Session κ τ) (subscriber : Subscriber η) (state : η) :
    ∃ marks, Steps subscriber ⟨s, state, .outside⟩ marks
        ⟨(s.run limit subscriber state).2.2, (s.run limit subscriber state).2.1, .outside⟩ ∧
      ∀ verdict, (s.run limit subscriber state).1 = some verdict →
        Mark.verdict? marks = some verdict := by
  induction limit generalizing s state with
  | zero => exact ⟨[], .refl _, by simp [Session.run]⟩
  | succ limit ih =>
    obtain ⟨first, hfirst, hreturned⟩ := receive_steps s subscriber state
    rcases s.run_cases limit subscriber state with ⟨journal, hrun⟩ | hrun
    · obtain ⟨rest, hrest, hlast⟩ := ih
        ((s.receive subscriber state).2.2.logged journal) (s.receive subscriber state).2.1
      rw [hrun]
      refine ⟨first ++ .noted :: rest, hfirst.append (.step (.note journal rfl) hrest),
        fun verdict hverdict => ?_⟩
      have hnoted : Mark.verdict? (.noted :: rest) = some verdict := hlast verdict hverdict
      exact Mark.verdict?_append hnoted first
    · rw [hrun]
      refine ⟨first, hfirst, fun verdict hverdict => ?_⟩
      rw [Mark.verdict?, hreturned]
      exact hverdict

-- ---------------------------------------------------------------------------
-- The invariant
-- ---------------------------------------------------------------------------

/-- The reader keeps the router, an open session keeps its group and its stream, a receive that
waits has an open session, and what a receive will return tells where the session is. -/
structure Sound (router : Router) (r : Reader κ τ η) : Prop where
  routing : r.session.router = router
  held : r.session.phase = .active →
    (∃ group, r.session.group? = some group) ∧ ∃ transport, r.session.transport? = some transport
  active : r.place.isBusy = true → r.session.phase = .active
  told : ∀ outcome left, r.place = .handing outcome left →
    Tells outcome r.session.phase ∧ ∃ read : Read, left <:+ read.eventsFor router

section Invariant

variable {router : Router} {mark : Mark}

/-- What a wait leads to tells where the session is. -/
theorem conclude_tells {s : Session κ τ} (hp : s.phase = .active) (subscriber : Subscriber η)
    (state : η) (read : Read) :
    Tells (s.conclude subscriber state read).1 (s.conclude subscriber state read).2.2.phase := by
  rcases s.conclude_cases subscriber state read with ⟨journal, hs, ho⟩ | hs | ⟨e, -, hs⟩
  · rw [hs]
    exact hp ▸ .goesOn ho
  · rw [hs]
    exact .closed
  · rw [hs]
    exact .failed e

/-- After a wait the session is open and holds what it held, or it is not open any more. -/
theorem conclude_held {s : Session κ τ} (subscriber : Subscriber η) (state : η) (read : Read)
    (h : (s.conclude subscriber state read).2.2.phase = .active) :
    ∃ journal, (s.conclude subscriber state read).2.2 = s.logged journal := by
  rcases s.conclude_cases subscriber state read with ⟨journal, hs, -⟩ | hs | ⟨e, -, hs⟩
  · exact ⟨journal, hs⟩
  · rw [hs] at h
    cases h
  · rw [hs] at h
    cases h

/-- The invariant holds after every step: by cases on what the reader is about to do. -/
theorem Sound.step (h : r.Sound router) (hs : Step subscriber mark r r') : r'.Sound router := by
  cases hs with
  | ask => exact ⟨h.routing, h.held, h.active, h.told⟩
  | note journal hplace => exact ⟨h.routing, h.held, h.active, h.told⟩
  | enter hplace hp => exact ⟨h.routing, h.held, fun _ => hp, by simp⟩
  | enterInVain hplace hp =>
    refine ⟨h.routing, h.held, by simp [Place.isBusy], fun outcome left heq => ?_⟩
    obtain ⟨rfl, rfl⟩ := Place.handing.inj heq
    -- nothing is handed over, so that any read will do
    refine ⟨?_, .error (.read ""), List.nil_suffix⟩
    split
    · rename_i hc
      exact hc ▸ .closed
    · rename_i hc
      exact .misused hp hc
  | leave hplace hr =>
    have hended := r.session.shutDown_keeps
    refine ⟨hended.router.trans h.routing, fun hp => (by cases hp), by simp [Place.isBusy],
      fun outcome left heq => ?_⟩
    obtain ⟨rfl, rfl⟩ := Place.handing.inj heq
    exact ⟨.closed, .ok .closed, List.nil_suffix⟩
  | stay hplace hr => exact ⟨h.routing, h.held, fun _ => h.active (by rw [hplace]; rfl), by simp⟩
  | begin hplace ht =>
    exact ⟨h.routing, h.held, fun _ => h.active (by rw [hplace]; rfl), by simp⟩
  | lack hplace ht => exact ⟨h.routing, h.held, fun _ => h.active (by rw [hplace]; rfl), by simp⟩
  | hear hplace ht hw =>
    exact ⟨h.routing, fun hp => ⟨(h.held hp).1, _, rfl⟩,
      fun _ => h.active (by rw [hplace]; rfl), by simp⟩
  -- the only step from which events are left to be handed over
  | @judge _ read hplace =>
    have hp := h.active (by rw [hplace]; rfl)
    refine ⟨(r.session.conclude_keeps subscriber r.state read).router.trans h.routing,
      fun hstill => ?_, by simp [Place.isBusy], fun outcome left heq => ?_⟩
    · obtain ⟨journal, hs⟩ := conclude_held subscriber r.state read hstill
      rw [hs]
      exact h.held hp
    · obtain ⟨rfl, rfl⟩ := Place.handing.inj heq
      exact ⟨conclude_tells hp subscriber r.state read, read, h.routing ▸ List.suffix_rfl⟩
  | hand hplace =>
    refine ⟨h.routing, h.held, by simp [Place.isBusy], fun outcome left heq => ?_⟩
    obtain ⟨rfl, rfl⟩ := Place.handing.inj heq
    obtain ⟨htells, read, hleft⟩ := h.told _ _ hplace
    exact ⟨htells, read, (List.suffix_cons _ _).trans hleft⟩
  | finish hplace => exact ⟨h.routing, h.held, by simp [Place.isBusy], by simp⟩

/-- So it holds after any number of steps. -/
theorem Sound.steps (h : r.Sound router) (hs : Steps subscriber r marks r') : r'.Sound router := by
  induction hs with
  | refl => exact h
  | step hs _ ih => exact ih (h.step hs)

/-- A session that calls can lead to is ready for a reader. -/
theorem sound_of_reached [StreamConnector κ τ] {s : Session κ τ} (hs : s.Reached) (state : η) :
    Sound s.router ⟨s, state, .outside⟩ := by
  obtain ⟨client, router, connector, options, calls, rfl⟩ := hs
  have hsettled :=
    (Session.standing_performAll (τ := τ) client router connector options calls).settled
  exact ⟨rfl, fun hp => ⟨Option.isSome_iff_exists.mp (hsettled.group.mp hp),
    Option.isSome_iff_exists.mp (hsettled.transport.mp hp)⟩, by simp [Place.isBusy], by simp⟩

end Invariant

-- ---------------------------------------------------------------------------
-- What steps show
-- ---------------------------------------------------------------------------

/-- The subscriber gets the events that are handed over, and no others. -/
theorem Steps.state_eq (h : Steps subscriber r marks r') :
    r'.state = Router.handleAll subscriber.handle r.state (Mark.handedIn marks) := by
  induction h with
  | refl => rfl
  | step hs _ ih =>
    rw [ih]
    cases hs <;> rfl

end Reader

end RobotWeb.Stream
