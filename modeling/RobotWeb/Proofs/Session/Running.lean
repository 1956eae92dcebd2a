import Mathlib
import RobotWeb.Proofs.Markup.Document
import RobotWeb.Proofs.Session.Standing
import RobotWeb.Proofs.Stream.Fragments
import RobotWeb.Proofs.Stream.Routing
import RobotWeb.Stream.Tape

/-!
# Runs of a session

A run reads until the stream ends. It skips what carries no events and rejects frames as a whole,
and the subscriber gets the events of the others in the order of the stream.

* `Read.ends`, `Read.eventsFor`     — whether a read ends the session, and which events it has.
* `Plays`                           — what a transport answers to the next waits.
* `Reading.receive_of_not_ends`     — one receive that does not end the session.
* `Reading.run_of_ends`             — a run up to the read that does.
* `run_follows_stream`              — the runs of every session that calls can lead to.
-/

namespace RobotWeb.Stream

abbrev Read := Except TransportError FrameRead

def Read.ends : Read → Bool
  | .error _ | .ok .closed => true
  | .ok (.frame frame) => frame.opcode = .close
  | .ok .idle => false

/-- The events of a read: those of a data frame that is accepted, and else none. -/
def Read.eventsFor (router : Router) : Read → List (Resource × Event)
  | .ok (.frame frame) =>
    if frame.opcode.isData then
      match ParsedFrame.parse frame.content with
      | .ok parsed => router.eventsIn parsed.fragments
      | .error _ => []
    else []
  | _ => []

/-- What a receive gives that ends with the read. -/
def Read.lastOutcome : Read → Except SessionError Received
  | .error e => .error (.transport e)
  | .ok _ => .ok .closed

def Read.verdict : Read → Except SessionError Unit
  | .error e => .error (.transport e)
  | .ok _ => .ok ()

/-- Where a session is after the read that ends it. -/
def Read.lastPhase : Read → Phase
  | .error _ => .failed
  | .ok _ => .closed

/-- The transport answers the next waits with these reads, and nobody asks the session to close
meanwhile. -/
def Plays {τ : Type} [FrameTransport τ] (transport : τ) : List Read → Prop
  | [] => True
  | read :: rest =>
    ∃ left, FrameTransport.receive transport = (⟨read, false, false⟩, left) ∧ Plays left rest

/-- The state of a subscriber after the events of the reads. -/
def Subscriber.after {η : Type} (subscriber : Subscriber η) (router : Router) (state : η)
    (reads : List Read) : η :=
  Router.handleAll subscriber.handle state (reads.flatMap (Read.eventsFor router))

namespace Session

variable {κ τ η : Type} [FrameTransport τ]

/-- The session is open and nobody has asked it to close. -/
structure Reading (s : Session κ τ) (transport : τ) : Prop where
  phase : s.phase = .active
  group : ∃ group, s.group? = some group
  transport : s.transport? = some transport
  requested : s.closeRequested = false

/-- The session after the read that ends it. -/
def endedBy (s : Session κ τ) : Read → Session κ τ
  | .error _ => (s.note .error "event stream failed").fail
  | .ok _ => s.shutDown

-- ---------------------------------------------------------------------------
-- One receive
-- ---------------------------------------------------------------------------

section Receive

variable {s : Session κ τ} {transport left : τ} {read : Read}

/-- A frame that does not close the stream delivers its events. -/
theorem deliver_of_not_close {frame : Frame} (hf : frame.opcode ≠ .close)
    (subscriber : Subscriber η) (state : η) :
    (s.deliver subscriber state frame).2.1 =
      Router.handleAll subscriber.handle state
        (Read.eventsFor s.router (.ok (.frame frame))) := by
  cases hd : frame.opcode.isData with
  | false => simp [deliver, hf, hd, Read.eventsFor, Router.handleAll]
  | true =>
    cases hp : ParsedFrame.parse frame.content with
    | error e => simp [deliver, hf, hd, hp, Read.eventsFor, Router.handleAll]
    | ok parsed =>
      have hstate := s.router.deliverFrame_state subscriber.handle state parsed
      simp only [deliver, hf, hd, hp, Read.eventsFor, if_false, if_true, Bool.not_true,
        Bool.false_eq_true, ← hstate]
      split <;> rename_i hr <;> rw [hr]

/-- A read that does not end the session delivers its events and changes only the journal. -/
theorem conclude_of_not_ends (hr : s.closeRequested = false) (he : read.ends = false)
    (subscriber : Subscriber η) (state : η) :
    ∃ outcome client, staysOpen outcome = true ∧ s.conclude subscriber state read =
      (outcome, subscriber.after s.router state [read], { s with client }) := by
  match read with
  | .ok .idle =>
    refine ⟨.ok .idle, s.client, rfl, ?_⟩
    rw [conclude, if_neg (by simp [hr])]
    rfl
  | .ok (.frame frame) =>
    have hf : frame.opcode ≠ .close := by simpa [Read.ends] using he
    have hstate := deliver_of_not_close (s := s) hf subscriber state
    rcases deliver_cases s subscriber state frame with ⟨journal, hs, ho⟩ | ⟨hclose, -⟩
    · refine ⟨_, (s.logged journal).client, ho, ?_⟩
      have hs' : _ = { s with client := (s.logged journal).client } := hs
      simp only [conclude, Subscriber.after, List.flatMap_singleton, ← hstate, ← hs']
    · exact absurd hclose hf
  | .ok .closed => simp [Read.ends] at he
  | .error e => simp [Read.ends] at he

/-- A read that ends the session delivers nothing. -/
theorem conclude_of_ends (he : read.ends = true) (subscriber : Subscriber η) (state : η) :
    s.conclude subscriber state read = (read.lastOutcome, state, s.endedBy read) := by
  match read with
  | .ok .idle => simp [Read.ends] at he
  | .ok (.frame frame) =>
    have hf : frame.opcode = .close := by simpa [Read.ends] using he
    simp [conclude, deliver, hf, Read.lastOutcome, endedBy]
  | .ok .closed => rfl
  | .error e => rfl

/-- Whatever comes of a read, the subscriber has been handed its events. -/
theorem conclude_state (s : Session κ τ) (subscriber : Subscriber η) (state : η) (read : Read) :
    (s.conclude subscriber state read).2.1 = subscriber.after s.router state [read] := by
  have hnone : read.eventsFor s.router = [] → subscriber.after s.router state [read] = state :=
    fun h => by simp [Subscriber.after, h, Router.handleAll]
  cases read with
  | error e => exact (hnone rfl).symm
  | ok given =>
    cases given with
    | closed => exact (hnone rfl).symm
    | idle =>
      rw [hnone rfl, conclude]
      split <;> rfl
    | frame frame =>
      by_cases hf : frame.opcode = .close
      · rw [hnone (by simp [Read.eventsFor, hf, Opcode.isData])]
        simp [conclude, deliver, hf]
      · simpa [conclude, Subscriber.after] using deliver_of_not_close hf subscriber state

/-- The group is deleted and the stream closed after the read that ends the session, and nothing
more is read. -/
theorem endedBy_of_open {group : String} (hg : s.group? = some group)
    (ht : s.transport? = some transport) (read : Read) :
    (s.endedBy read).phase = read.lastPhase ∧
      ∃ ending, (s.endedBy read).trace = s.trace ++ ending ∧ .receive ∉ ending := by
  cases read with
  | error e =>
    obtain ⟨client, deleted, hf⟩ :=
      fail_of_open (s := s.note .error "event stream failed") hg ht
    rw [endedBy, hf]
    exact ⟨rfl, [.closeStream (FrameTransport.close transport).1.isOk, .unsubscribe group deleted],
      rfl, by simp⟩
  | ok given =>
    obtain ⟨client, deleted, hs⟩ := shutDown_of_open hg ht
    rw [endedBy, hs]
    exact ⟨rfl, [.unsubscribe group deleted, .closeStream (FrameTransport.close transport).1.isOk],
      rfl, by simp⟩

/-- A receive that does not end the session waits once and delivers the events. -/
theorem Reading.receive_of_not_ends (h : s.Reading transport)
    (hw : FrameTransport.receive transport = (⟨read, false, false⟩, left))
    (he : read.ends = false) {subscriber : Subscriber η} {state : η}
    (hasks : subscriber.asksToClose (subscriber.after s.router state [read]) = false) :
    ∃ outcome client, staysOpen outcome = true ∧ s.receive subscriber state =
      (outcome, subscriber.after s.router state [read],
        { s with client, transport? := some left, trace := s.trace ++ [.receive] }) := by
  obtain ⟨outcome, client, ho, hc⟩ := conclude_of_not_ends
    (s := s.afterWait ⟨read, false, false⟩ left) (by simp [afterWait, h.requested]) he
    subscriber state
  refine ⟨outcome, client, ho, ?_⟩
  rw [receive_of_open h.phase h.requested h.transport hw, hc]
  simp [noteRequests, hasks, afterWait, h.requested]

/-- A receive that ends the session delivers nothing and waits no more. -/
theorem Reading.receive_of_ends (h : s.Reading transport)
    (hw : FrameTransport.receive transport = (⟨read, false, false⟩, left))
    (he : read.ends = true) (subscriber : Subscriber η) (state : η) :
    ∃ next, s.receive subscriber state = (read.lastOutcome, state, next) ∧
      next.phase = read.lastPhase ∧
      ∃ ending, next.trace = s.trace ++ .receive :: ending ∧ .receive ∉ ending := by
  obtain ⟨group, hg⟩ := h.group
  have hc := conclude_of_ends (s := s.afterWait ⟨read, false, false⟩ left) he subscriber state
  obtain ⟨hphase, ending, htrace, hending⟩ :=
    endedBy_of_open (s := s.afterWait ⟨read, false, false⟩ left) hg rfl read
  obtain ⟨closeRequested, hreceive⟩ :=
    receive_of_wait h.phase h.requested h.transport hw subscriber state
  rw [hreceive, hc]
  refine ⟨_, rfl, hphase, ending, ?_, hending⟩
  rw [htrace]
  simp [afterWait]

end Receive

-- ---------------------------------------------------------------------------
-- Runs
-- ---------------------------------------------------------------------------

section Run

variable {s : Session κ τ} {transport : τ} {subscriber : Subscriber η} {state : η}
  {before rest : List Read} {last : Read}

/-- A run reads past what does not end the session. -/
theorem Reading.run_past (h : s.Reading transport) (hplays : Plays transport (before ++ rest))
    (hbefore : ∀ read ∈ before, read.ends = false)
    (hasks : ∀ reads, reads <+: before →
      subscriber.asksToClose (subscriber.after s.router state reads) = false) :
    ∃ (next : Session κ τ) (left : τ), next.Reading left ∧ Plays left rest ∧
      next.router = s.router ∧
      next.trace = s.trace ++ List.replicate before.length .receive ∧
      ∀ limit, s.run (before.length + limit) subscriber state =
        next.run limit subscriber (subscriber.after s.router state before) := by
  -- over the reads: each is one turn, after which the session reads what is left of the stream
  induction before generalizing s transport state with
  | nil =>
    refine ⟨s, transport, h, hplays, rfl, by simp, fun limit => ?_⟩
    simp [Subscriber.after, Router.handleAll]
  | cons read before ih =>
    obtain ⟨left, hw, hplays⟩ := hplays
    obtain ⟨outcome, client, ho, hr⟩ := h.receive_of_not_ends hw
      (hbefore read List.mem_cons_self) (hasks [read] (by simp))
    obtain ⟨journal, hrun⟩ := run_of_staysOpen hr ho h.phase
    have hshift : ∀ reads, subscriber.after s.router
        (subscriber.after s.router state [read]) reads =
          subscriber.after s.router state (read :: reads) := by
      intro reads
      simp [Subscriber.after, ← Router.handleAll_append]
    have hreading : Reading (logged { s with
        client, transport? := some left, trace := s.trace ++ [.receive] } journal) left :=
      ⟨h.phase, h.group, rfl, h.requested⟩
    -- the subscriber asks nothing either, if the first events count as received
    have hrest : ∀ reads, reads <+: before → subscriber.asksToClose
        (subscriber.after s.router (subscriber.after s.router state [read]) reads) = false := by
      intro reads hreads
      rw [hshift]
      exact hasks (read :: reads) (List.cons_prefix_cons.mpr ⟨rfl, hreads⟩)
    obtain ⟨next, left', hnext, hleft, hrouter, htrace, hlimit⟩ := ih hreading hplays
      (fun other hother => hbefore other (List.mem_cons_of_mem _ hother)) hrest
    refine ⟨next, left', hnext, hleft, hrouter, ?_, fun limit => ?_⟩
    · rw [htrace, List.length_cons, List.replicate_succ]
      simp [logged]
    · rw [List.length_cons, Nat.add_right_comm, hrun, hlimit]
      exact congrArg (run limit next subscriber) (hshift before)

/-- A run that gives up before the session ends has no outcome. -/
theorem Reading.run_of_short (h : s.Reading transport) (hplays : Plays transport (before ++ [last]))
    (hbefore : ∀ read ∈ before, read.ends = false)
    (hasks : ∀ reads, reads <+: before →
      subscriber.asksToClose (subscriber.after s.router state reads) = false)
    {limit : Nat} (hlimit : limit ≤ before.length) : (s.run limit subscriber state).1 = none := by
  rw [← List.take_append_drop limit before, List.append_assoc] at hplays
  obtain ⟨next, left, -, -, -, -, hrun⟩ := h.run_past hplays
    (fun read hread => hbefore read (List.mem_of_mem_take hread))
    (fun reads hreads => hasks reads (hreads.trans (List.take_prefix limit before)))
  have hnone := hrun 0
  rw [List.length_take, Nat.min_eq_left hlimit, Nat.add_zero] at hnone
  rw [hnone]
  rfl

/-- A run ends with the read that ends the session, after the events of all reads before it. -/
theorem Reading.run_of_ends (h : s.Reading transport) (hplays : Plays transport (before ++ [last]))
    (hbefore : ∀ read ∈ before, read.ends = false) (hlast : last.ends = true)
    (hasks : ∀ reads, reads <+: before →
      subscriber.asksToClose (subscriber.after s.router state reads) = false)
    {limit : Nat} (hlimit : before.length < limit) :
    ∃ next, s.run limit subscriber state =
        (some last.verdict, subscriber.after s.router state before, next) ∧
      next.phase = last.lastPhase ∧
      ∃ ending, next.trace =
        s.trace ++ List.replicate (before.length + 1) .receive ++ ending ∧ .receive ∉ ending := by
  obtain ⟨middle, left, hmiddle, ⟨_, hw, -⟩, hrouter, htrace, hrun⟩ :=
    h.run_past hplays hbefore hasks
  obtain ⟨next, hr, hphase, ending, hnext, hending⟩ := hmiddle.receive_of_ends hw hlast subscriber
    (subscriber.after s.router state before)
  -- one turn for each read before, one for the last, and any number that is not used
  obtain ⟨more, rfl⟩ : ∃ more, limit = before.length + (more + 1) :=
    ⟨limit - before.length - 1, by omega⟩
  refine ⟨next, ?_, hphase, ending, ?_, hending⟩
  · rw [hrun]
    cases last with
    | error e => exact run_of_failed hr more
    | ok given => exact run_of_closed hr more
  · rw [hnext, htrace, List.replicate_succ']
    simp

end Run

/-- Every open session that calls can lead to is ready to be read from. -/
theorem reading_of_reached [StreamConnector κ τ] {s : Session κ τ} (hs : s.Reached)
    (hactive : s.phase = .active) (hrequested : s.closeRequested = false) :
    ∃ transport, s.Reading transport := by
  obtain ⟨client, router, connector, options, calls, rfl⟩ := hs
  cases standing_performAll (τ := τ) client router connector options calls with
  | untouched h => simp [h.phase] at hactive
  | ended life h =>
    have hfinished := h.phase
    simp [hactive, Phase.isFinished] at hfinished
  | streaming form locator protocol talk h =>
    obtain ⟨transport, ht⟩ := h.transport
    exact ⟨transport, hactive, ⟨_, h.group⟩, ht, hrequested⟩

end Session

/-- **A run follows the stream to its end.** On every open session that calls can lead to, a run
reads until the first read that ends the session, returns what that read says, and has delivered the
events of all accepted frames before it, in their order. Its trace has one entry for each of the
reads, and each entry stands for what took place outside. On a session that is not open a run ends
at once. -/
theorem run_follows_stream {κ τ : Type} [FrameTransport τ] [StreamConnector κ τ]
    {s : Session κ τ} (hs : s.Reached) :
    (s.phase = .active → s.closeRequested = false →
      ∃ transport, s.transport? = some transport ∧
        ∀ {η : Type} (subscriber : Subscriber η) (state : η) (before : List Read) (last : Read),
          Plays transport (before ++ [last]) →
          (∀ read ∈ before, read.ends = false) → last.ends = true →
          (∀ reads, reads <+: before →
            subscriber.asksToClose (subscriber.after s.router state reads) = false) →
          (∀ limit ≤ before.length, (s.run limit subscriber state).1 = none) ∧
          ∀ limit, before.length < limit →
            ∃ next, s.run limit subscriber state =
                (some last.verdict, subscriber.after s.router state before, next) ∧
              next.phase = last.lastPhase ∧
              (∃ ending, next.trace =
                  s.trace ++ List.replicate (before.length + 1) .receive ++ ending ∧
                .receive ∉ ending) ∧
              s.Accounted next) ∧
    ∀ {η : Type} (subscriber : Subscriber η) (state : η) (limit : Nat),
      (s.phase = .unopened ∨ s.phase = .failed →
        s.run (limit + 1) subscriber state =
          (some (.error (.invalidState "receive" s.phase)), state, s)) ∧
      (s.phase = .closed → s.run (limit + 1) subscriber state = (some (.ok ()), state, s)) := by
  refine ⟨fun hactive hrequested => ?_, fun {η} subscriber state limit => ⟨fun hphase => ?_,
    fun hclosed => ?_⟩⟩
  -- an open session that is reached reads a stream; its reads before the last leave it reading
  · obtain ⟨transport, hreading⟩ := Session.reading_of_reached hs hactive hrequested
    refine ⟨transport, hreading.transport, fun {η} subscriber state before last hplays hbefore hlast
      hasks => ⟨fun limit hlimit => ?_, fun limit hlimit => ?_⟩⟩
    · exact hreading.run_of_short hplays hbefore hasks hlimit
    · obtain ⟨next, hrun, hphase, htrace⟩ :=
        hreading.run_of_ends hplays hbefore hlast hasks hlimit
      have haccounted := s.run_accounted limit subscriber state
      rw [hrun] at haccounted
      exact ⟨next, hrun, hphase, htrace, haccounted⟩
  · have hne : s.phase ≠ .active := by rcases hphase with h | h <;> simp [h]
    have hnc : s.phase ≠ .closed := by rcases hphase with h | h <;> simp [h]
    rw [Session.run_of_not_open hne, if_neg hnc]
    rfl
  · rw [Session.run_of_not_open (by simp [hclosed]), if_pos hclosed]

/-- A client whose controller creates one group. -/
def grantingClient : Http.Client :=
  let baseUrl : Url := ⟨"https", some { host := .name "robot" }, .segments [""], none, none⟩
  let created : Http.Answer := { status := 201, location := some "/poll/1" }
  let patience := Duration.ofMilliseconds 1000
  { options :=
      { baseUrl, connectTimeout := patience, readTimeout := patience, writeTimeout := patience }
    network := { outcomes := [.ok created] } }

/-- A session whose stream is the tape, after it has been opened. -/
def playing (tape : Tape) (router : Router := {}) : Session TapePlayer Tape :=
  let fresh : Session TapePlayer Tape :=
    Session.create grantingClient router ⟨tape, none⟩ { pollInterval := .ofMilliseconds 500 }
  (fresh.performAll [.start ⟨[⟨"/rw/panel/ctrl-state", .low⟩]⟩]).2

theorem playing_reached (tape : Tape) (router : Router) : (playing tape router).Reached :=
  ⟨_, _, _, _, _, rfl⟩

/-- The opening succeeds, whatever is on the tape. -/
theorem playing_opened (tape : Tape) (router : Router) :
    (playing tape router).phase = .active ∧ (playing tape router).closeRequested = false ∧
      (playing tape router).transport? = some tape ∧ (playing tape router).router = router := by
  have hopened : ((playing tape router).phase, (playing tape router).closeRequested,
      (playing tape router).transport?, (playing tape router).router) =
        (.active, false, some tape, router) := by cbv
  simpa only [Prod.mk.injEq] using hopened

/-- The events of a frame whose page is read within the bound. -/
theorem Read.eventsFor_of_content {router : Router} {frame : Frame}
    {events : List (Resource × Event)} (bound : Nat) (hdata : frame.opcode.isData = true)
    (hcontent : Text.isBlankText frame.content = false)
    (hmark : frame.content.toList.head? ≠ some '\uFEFF')
    (hdeclaration : Text.dropMarker? "<?xml".toList frame.content.toList = none)
    (h : ((Markup.Draft.readWithin { dialect := { version := .v10 } }
        ⟨⟨.content, frame.content.toList⟩, 0, 0⟩ bound).bind fun outcome =>
          (outcome >>= Markup.Draft.root).toOption).any (fun root =>
        (checkItems (root.withName itemName)).isOk &&
          router.eventsIn ((root.withName itemName).filterMap fun item =>
            (Fragment.ofElement item).toOption) == events) = true) :
    Read.eventsFor router (.ok (.frame frame)) = events := by
  -- the bounded reading is run in the kernel, the unbounded one gives the same page
  obtain ⟨root, hroot, hcheck⟩ := Markup.exists_parse bound hmark hdeclaration h
  obtain ⟨haccepted, hevents⟩ := (Bool.and_eq_true _ _).mp hcheck
  have hpage : Page.parse frame.content = .ok root := by rw [Page.parse, hroot]
  have hparsed := parse_of_page hcontent hpage
  cases hitems : checkItems (root.withName itemName) with
  | error e =>
    rw [hitems] at haccepted
    cases haccepted
  | ok =>
    rw [hitems, Except.map] at hparsed
    rw [Read.eventsFor, if_pos hdata]
    simp only [hparsed, fragments_eq]
    exact eq_of_beq hevents

/-- A list item for the signal of a lamp, with what it tells of it. -/
def lampItem (told : String) : String :=
  "<li class=\"ios-signalstate-ev\"><a href=\"/rw/iosystem/signals/DI1;state\"/>" ++ told ++ "</li>"

/-- The lamp is lit. -/
def litFrame : Frame :=
  ⟨0x81, "<ul>" ++ lampItem "<b class=\"lvalue\">1</b>" ++ "</ul>"⟩

/-- The lamp is lit, and a second item does not tell its state, for which the frame is rejected. -/
def brokenFrame : Frame :=
  ⟨0x81, "<ul>" ++ lampItem "<b class=\"lvalue\">1</b>" ++ lampItem "" ++ "</ul>"⟩

def lampTape : Tape :=
  { waits := [.idle, .frame brokenFrame, .frame litFrame, .frame ⟨0x89, ""⟩].map
      (⟨.ok ·, false, false⟩) }

def lampRouter : Router :=
  ⟨[.ioSignal "DI1"]⟩

/-- A run past an idle wait, a frame that is rejected, one that is delivered, and a ping to the end
of the stream. -/
theorem lamp_tape_is_followed :
    let subscriber : Subscriber (List Event) := { handle := fun seen _ event => seen ++ [event] }
    (playing lampTape lampRouter).phase = .active ∧
      ∃ next, (playing lampTape lampRouter).run 5 subscriber [] =
        (some (.ok ()), [.ioSignal "DI1" "1"], next) ∧ next.phase = .closed := by
  intro subscriber
  have hlit : Read.eventsFor lampRouter (.ok (.frame litFrame)) =
      [(.ioSignal "DI1", .ioSignal "DI1" "1")] :=
    Read.eventsFor_of_content 60 rfl (by decide +kernel) (by decide +kernel) (by decide +kernel)
      (by decide +kernel)
  have hbroken : Read.eventsFor lampRouter (.ok (.frame brokenFrame)) = [] :=
    Read.eventsFor_of_content 60 rfl (by decide +kernel) (by decide +kernel) (by decide +kernel)
      (by decide +kernel)
  obtain ⟨hactive, hrequested, htape, hrouter⟩ := playing_opened lampTape lampRouter
  obtain ⟨transport, ht, hrun⟩ :=
    (run_follows_stream (playing_reached lampTape lampRouter)).1 hactive hrequested
  obtain rfl : lampTape = transport := by
    rw [htape] at ht
    exact Option.some.inj ht
  have hplays : Plays lampTape ([.ok .idle, .ok (.frame brokenFrame), .ok (.frame litFrame),
      .ok (.frame ⟨0x89, ""⟩)] ++ [.ok .closed]) :=
    ⟨_, rfl, _, rfl, _, rfl, _, rfl, _, rfl, trivial⟩
  obtain ⟨next, hnext, hphase, -⟩ := (hrun subscriber [] _ _ hplays
    (by simp only [List.forall_mem_cons]; exact ⟨rfl, rfl, rfl, rfl, nofun⟩) rfl
    (fun _ _ => rfl)).2 5 (Nat.lt_add_one 4)
  refine ⟨hactive, next, ?_, hphase⟩
  have hevents : subscriber.after lampRouter [] [.ok .idle, .ok (.frame brokenFrame),
      .ok (.frame litFrame), .ok (.frame ⟨0x89, ""⟩)] = [.ioSignal "DI1" "1"] := by
    have hidle : Read.eventsFor lampRouter (.ok .idle) = [] := rfl
    have hping : Read.eventsFor lampRouter (.ok (.frame ⟨0x89, ""⟩)) = [] := rfl
    simp only [Subscriber.after, List.flatMap_cons, List.flatMap_nil, hidle, hbroken, hlit, hping]
    rfl
  rw [hnext, hrouter, hevents]
  rfl

end RobotWeb.Stream
