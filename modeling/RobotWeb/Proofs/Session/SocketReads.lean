import RobotWeb.Proofs.Session.CloseRequest
import RobotWeb.Proofs.WebSocket.Backlog
import RobotWeb.WebSocket.Upgrade

/-!
# Reads of the socket under a session

A wait on a socket reads message after message until one of them decides what it gives, and each
read may last as long as the connection allows a read to last. The session looks whether it is asked
to close before a wait and after it, but not between two reads of one wait. So the reader looks
between any two of its reads as long as none of them follows a control message, and a request may be
left unseen for as many reads as there are control messages, and one more.

* `Reader.Move`, `Reader.Moves` — a reader whose waits are made of reads of the socket.
* `Reader.moves_of_steps`     — the steps of a reader are such moves.
* `Attentive`                 — the reader looks between any two reads.
* `Reader.attentive_iff`      — it does unless a read follows a control message.
* `Moves.reads_of_requested`  — the reads that are still made once somebody has asked.
* `pings_delay_request`       — no number bounds them.
-/

namespace RobotWeb.Stream

open WebSocket (Gateway Message MessageSocket Socket receiveWithin)

/-- What a reader over a socket does. -/
inductive Deed where
  /-- Any step but the end of a wait. -/
  | step (mark : Mark)
  /-- The socket is read, and the control message that it gives is answered. -/
  | answer (message : Message)
  /-- The socket is read, which ends the wait. -/
  | hear (read : Read)

namespace Deed

/-- The socket is read. -/
def isRead : Deed → Bool
  | step _ => false
  | answer _ | hear _ => true

/-- What deeds show of the reader's steps. -/
def shown (deeds : List Deed) : List Mark :=
  deeds.filterMap fun | step mark => some mark | answer _ => none | hear read => some (.heard read)

end Deed

/-- Between any two reads the reader looks whether it is asked to close. -/
def Attentive (deeds : List Deed) : Prop :=
  ∀ before first between second after,
    deeds = before ++ first :: (between ++ second :: after) → first.isRead = true →
    second.isRead = true → Deed.step .looked ∈ between

/-- The receive has found nobody asking, and looks again only when its wait is over. -/
def Place.looksAway : Place → Bool
  | cleared | waiting => true
  | outside | entered | judging _ | handing .. => false

namespace Reader

variable {κ η : Type}

/-- One step, where a wait takes as many as the socket is read. -/
inductive Move (subscriber : Subscriber η) :
    Deed → Reader κ Socket η → Reader κ Socket η → Prop where
  | step {r r' : Reader κ Socket η} {mark : Mark} (h : Step subscriber mark r r')
      (hmark : ∀ read, mark ≠ .heard read) : Move subscriber (.step mark) r r'
  | answer {r : Reader κ Socket η} {socket socket' left : Socket} {message : Message}
      (h : r.place = .waiting) (ht : r.session.transport? = some socket)
      (hread : MessageSocket.read socket = (.ok message, socket'))
      (hmessage : message.isControl = true)
      (hflush : MessageSocket.flush socket' = (.ok (), left)) :
      Move subscriber (.answer message) r { r with
        session := { r.session with transport? := some left } }
  | hear {r : Reader κ Socket η} {socket left : Socket} {read : Read}
      (h : r.place = .waiting) (ht : r.session.transport? = some socket)
      (hw : receiveWithin 1 socket = (some read, left)) :
      Move subscriber (.hear read) r { r with
        session := { r.session with transport? := some left }, place := .judging read }

/-- Any number of moves. -/
inductive Moves (subscriber : Subscriber η) :
    Reader κ Socket η → List Deed → Reader κ Socket η → Prop where
  | refl (r : Reader κ Socket η) : Moves subscriber r [] r
  | move {r r' r'' : Reader κ Socket η} {deed : Deed} {deeds : List Deed}
      (hm : Move subscriber deed r r') (h : Moves subscriber r' deeds r'') :
      Moves subscriber r (deed :: deeds) r''

variable {subscriber : Subscriber η} {r r' r'' : Reader κ Socket η} {deed : Deed}
  {deeds deeds' : List Deed} {mark : Mark} {marks : List Mark} {router : Router}

/-- Moves are put together, and cut, at any point. -/
theorem moves_append_iff :
    Moves subscriber r (deeds ++ deeds') r'' ↔
      ∃ r', Moves subscriber r deeds r' ∧ Moves subscriber r' deeds' r'' := by
  constructor
  · intro h
    induction deeds generalizing r with
    | nil => exact ⟨r, .refl r, h⟩
    | cons deed deeds ih =>
      obtain _ | ⟨hm, hrest⟩ := h
      obtain ⟨r', hfirst, hlater⟩ := ih hrest
      exact ⟨r', .move hm hfirst, hlater⟩
  · rintro ⟨r', h, h'⟩
    induction h with
    | refl => exact h'
    | move hm _ ih => exact .move hm (ih h')

-- ---------------------------------------------------------------------------
-- Steps as moves
-- ---------------------------------------------------------------------------

/-- A wait is made of the answers to the control messages that come first, and of one read more. -/
theorem wait_moves {limit : Nat} {socket left : Socket} {read : Read} (hplace : r.place = .waiting)
    (ht : r.session.transport? = some socket)
    (hw : receiveWithin limit socket = (some read, left)) :
    ∃ deeds, Deed.shown deeds = [.heard read] ∧ Moves subscriber r deeds { r with
      session := { r.session with transport? := some left }, place := .judging read } := by
  -- over the control messages, each answered before the next read
  induction limit generalizing r socket with
  | zero => cases hw
  | succ limit ih =>
    have hlast (h : receiveWithin 1 socket = (some read, left)) :
        ∃ deeds, Deed.shown deeds = [.heard read] ∧ Moves subscriber r deeds { r with
          session := { r.session with transport? := some left }, place := .judging read } :=
      ⟨[.hear read], rfl, .move (.hear hplace ht h) (.refl _)⟩
    -- three ways to end the wait with this read, and one to go on
    rcases WebSocket.wait_cases socket with ⟨e, t, hread⟩ | ⟨message, given, t, hread, hmessage⟩ |
      ⟨message, t, hread, hmessage, ⟨e, t', hflush⟩ | ⟨t', hflush⟩⟩
    · rw [WebSocket.receiveWithin_of_unread hread] at hw
      exact hlast ((WebSocket.receiveWithin_of_unread hread).trans hw)
    · rw [WebSocket.receiveWithin_of_read hread hmessage] at hw
      exact hlast ((WebSocket.receiveWithin_of_read hread hmessage).trans hw)
    · rw [WebSocket.receiveWithin_of_unflushed hread hmessage hflush] at hw
      exact hlast ((WebSocket.receiveWithin_of_unflushed hread hmessage hflush).trans hw)
    · rw [WebSocket.receiveWithin_of_control hread hmessage hflush] at hw
      obtain ⟨deeds, hshown, hmoves⟩ := ih
        (r := { r with session := { r.session with transport? := some t' } }) hplace rfl hw
      exact ⟨.answer message :: deeds, hshown,
        .move (.answer hplace ht hread hmessage hflush) hmoves⟩

/-- A step is a move, or a wait that is made of moves. -/
theorem moves_of_step (hs : r.Sound router) (h : Step subscriber mark r r') :
    ∃ deeds, Deed.shown deeds = [mark] ∧ Moves subscriber r deeds r' := by
  have hmove (hmark : ∀ read, mark ≠ .heard read) :
      ∃ deeds, Deed.shown deeds = [mark] ∧ Moves subscriber r deeds r' :=
    ⟨[.step mark], rfl, .move (.step h hmark) (.refl _)⟩
  cases h with
  | ask | note | enter | enterInVain | leave | stay | begin | judge | hand | finish =>
    exact hmove (by simp)
  -- an open session has a stream
  | lack hplace ht =>
    obtain ⟨-, transport, hsome⟩ := hs.held (hs.active (by rw [hplace]; rfl))
    cases ht.symm.trans hsome
  | @hear _ socket _ _ hplace ht hw =>
    obtain ⟨read, left, hreceive⟩ := Socket.exists_receiveWithin socket.backlog_lt_framesLeft
    simp only [FrameTransport.receive, hreceive, Option.getD_some] at hw
    obtain ⟨rfl, rfl⟩ := Prod.mk.inj hw
    exact wait_moves hplace ht hreceive

/-- The steps of a reader over a socket are moves, which show the same. -/
theorem moves_of_steps (hs : r.Sound router) (h : Steps subscriber r marks r') :
    ∃ deeds, Deed.shown deeds = marks ∧ Moves subscriber r deeds r' := by
  induction h with
  | refl r => exact ⟨[], rfl, .refl r⟩
  | step hstep _ ih =>
    obtain ⟨deeds, hshown, hmoves⟩ := moves_of_step hs hstep
    obtain ⟨deeds', hshown', hmoves'⟩ := ih (hs.step hstep)
    refine ⟨deeds ++ deeds', ?_, moves_append_iff.mpr ⟨_, hmoves, hmoves'⟩⟩
    rw [Deed.shown, List.filterMap_append, ← Deed.shown, ← Deed.shown, hshown, hshown']
    rfl

-- ---------------------------------------------------------------------------
-- Looks between reads
-- ---------------------------------------------------------------------------

/-- No move takes a request back. -/
theorem Move.requested (hr : r.session.closeRequested = true) (h : Move subscriber deed r r') :
    r'.session.closeRequested = true := by
  cases h with
  | step hstep => exact hstep.requested hr
  | answer | hear => exact hr

/-- Only a look that finds nobody asking leads to a wait. -/
theorem Move.looksAway (haway : r.place.looksAway = false)
    (hlook : deed = .step .looked → r.session.closeRequested = true)
    (h : Move subscriber deed r r') : deed.isRead = false ∧ r'.place.looksAway = false := by
  cases h with
  | answer hplace | hear hplace => simp [hplace, Place.looksAway] at haway
  | step hstep =>
    refine ⟨rfl, ?_⟩
    cases hstep with
    | ask | note => exact haway
    | stay _ hnot => simp [hlook rfl] at hnot
    | begin hplace => simp [hplace, Place.looksAway] at haway
    | enter | enterInVain | leave | lack | hear | judge | hand | finish => rfl

/-- Without such a look the socket is not read. -/
theorem Moves.looksAway (haway : r.place.looksAway = false)
    (hlook : .step .looked ∈ deeds → r.session.closeRequested = true)
    (h : Moves subscriber r deeds r') : ∀ deed ∈ deeds, deed.isRead = false := by
  induction h with
  | refl => simp
  | @move _ _ _ deed deeds hm _ ih =>
    have hfirst (heq : deed = .step .looked) := hlook (heq ▸ List.mem_cons_self)
    have hlater (hmem : .step .looked ∈ deeds) := hm.requested (hlook (List.mem_cons_of_mem _ hmem))
    obtain ⟨hread, hnext⟩ := hm.looksAway haway hfirst
    exact List.forall_mem_cons.mpr ⟨hread, ih hnext hlater⟩

/-- A reader that waits does nothing but read, while others may ask. -/
theorem Moves.eq_asked (hplace : r.place = .waiting) (hdeeds : ∀ deed ∈ deeds, deed.isRead = false)
    (h : Moves subscriber r deeds r') : ∀ deed ∈ deeds, deed = .step .asked := by
  induction h with
  | refl => simp
  | move hm _ ih =>
    obtain ⟨hread, hrest⟩ := List.forall_mem_cons.mp hdeeds
    cases hm with
    | answer | hear => cases hread
    | step hstep hmark =>
      cases hstep with
      | ask => exact List.forall_mem_cons.mpr ⟨rfl, ih hplace hrest⟩
      | hear => exact absurd rfl (hmark _)
      | note _ hplace' | enter hplace' | enterInVain hplace' | leave hplace' | stay hplace'
      | begin hplace' | lack hplace' | judge hplace' | hand hplace' | finish hplace' =>
        cases hplace'.symm.trans hplace

/-- The reader looks between any two of its reads, unless it reads on after a control message. -/
theorem attentive_iff (h : Moves subscriber r deeds r') :
    Attentive deeds ↔ ∀ before message after, deeds = before ++ .answer message :: after →
      ∀ deed ∈ after, deed.isRead = false := by
  constructor
  · intro hattentive before message after hdeeds
    by_contra hread
    -- nothing but requests stands before the first read after the control message
    obtain ⟨second, hsecond⟩ : ∃ second, after.find? Deed.isRead = some second :=
      Option.isSome_iff_exists.mp (List.find?_isSome.mpr (by simpa using hread))
    obtain ⟨hisRead, between, later, rfl, hbetween⟩ := List.find?_eq_some_iff_append.mp hsecond
    have hnone : ∀ deed ∈ between, deed.isRead = false := by simpa using hbetween
    have hlook := hattentive before _ between second later hdeeds rfl hisRead
    rw [hdeeds] at h
    obtain ⟨r₁, -, hmoves⟩ := moves_append_iff.mp h
    obtain _ | ⟨hanswer, hafter⟩ := hmoves
    obtain ⟨r₂, hwaits, -⟩ := moves_append_iff.mp hafter
    obtain _ | hplace := hanswer
    have hasked := Moves.eq_asked (by exact hplace) hnone hwaits
    cases hasked _ hlook
  · intro hlast before first between second after hdeeds hfirst hsecond
    by_contra hlook
    rw [hdeeds] at h
    obtain ⟨r₁, -, hmoves⟩ := moves_append_iff.mp h
    obtain _ | ⟨hmove, hafter⟩ := hmoves
    cases hmove with
    | step => cases hfirst
    | answer => simp [hlast _ _ _ hdeeds second (by simp)] at hsecond
    | hear =>
      rw [List.append_cons] at hafter
      obtain ⟨r₂, hbetween, -⟩ := moves_append_iff.mp hafter
      have hnot : .step .looked ∉ between ++ [second] := by
        rintro hmem
        rcases List.mem_append.mp hmem with hmem | hmem
        · exact hlook hmem
        · simp [← List.mem_singleton.mp hmem, Deed.isRead] at hsecond
      have hnone := Moves.looksAway rfl (fun hmem => absurd hmem hnot) hbetween
      simp [hnone second (by simp)] at hsecond

/-- Once somebody has asked, control messages may be read, and one message or failure after them.
Nothing is read by a receive that has not looked yet, or by a later one. -/
theorem Moves.reads_of_requested (hr : r.session.closeRequested = true)
    (h : Moves subscriber r deeds r') :
    ∃ messages read?, deeds.filter Deed.isRead =
        messages.map .answer ++ (Option.toList read?).map .hear ∧
      (r.place.looksAway = false → messages = [] ∧ read? = none) := by
  -- over the moves: the first one adds at most one read to those of the rest, and only at its front
  induction h with
  | refl => exact ⟨[], none, rfl, fun _ => ⟨rfl, rfl⟩⟩
  | @move r _ _ deed deeds hm _ ih =>
    obtain ⟨messages, read?, hreads, haway⟩ := ih (hm.requested hr)
    have hlooksAway (h : r.place.looksAway = false) := hm.looksAway h fun _ => hr
    cases hm with
    | step =>
      rw [List.filter_cons_of_neg (by simp [Deed.isRead])]
      exact ⟨messages, read?, hreads, fun h => haway (hlooksAway h).2⟩
    | @answer _ _ _ _ message hplace =>
      rw [List.filter_cons_of_pos rfl, hreads]
      exact ⟨message :: messages, read?, rfl, fun h => by simp [hplace, Place.looksAway] at h⟩
    | @hear _ _ _ read hplace =>
      obtain ⟨rfl, rfl⟩ := haway rfl
      rw [List.filter_cons_of_pos rfl, hreads]
      exact ⟨[], some read, rfl, fun h => by simp [hplace, Place.looksAway] at h⟩

end Reader

open Reader in
/-- **A request to close waits for control messages.** Take a session over sockets that calls can
lead to. Its receives and runs consist of moves, among which each read of the socket is one. However
they are mixed with requests to close, the reader looks between any two reads as long as it reads
nothing after a control message, and only then. Once somebody has asked, it reads any number of
control messages and at most one message or failure after them; and nothing unless it has looked
before and found nobody asking. -/
theorem control_messages_delay_request {κ η : Type} [StreamConnector κ Socket]
    {s : Session κ Socket} (hs : s.Reached) (subscriber : Subscriber η) (state : η) :
    (∃ deeds, Moves subscriber ⟨s, state, .outside⟩ deeds
        ⟨(s.receive subscriber state).2.2, (s.receive subscriber state).2.1, .outside⟩ ∧
      Mark.returnedIn (Deed.shown deeds) = [(s.receive subscriber state).1]) ∧
    (∀ limit, ∃ deeds, Moves subscriber ⟨s, state, .outside⟩ deeds
        ⟨(s.run limit subscriber state).2.2, (s.run limit subscriber state).2.1, .outside⟩ ∧
      ∀ verdict, (s.run limit subscriber state).1 = some verdict →
        Mark.verdict? (Deed.shown deeds) = some verdict) ∧
    ∀ deeds r, Moves subscriber ⟨s, state, .outside⟩ deeds r →
      (Attentive deeds ↔ ∀ before message after, deeds = before ++ .answer message :: after →
        ∀ deed ∈ after, deed.isRead = false) ∧
      (r.session.closeRequested = true → ∀ later r', Moves subscriber r later r' →
        ∃ messages read?, later.filter Deed.isRead =
            messages.map .answer ++ (Option.toList read?).map .hear ∧
          (r.place.looksAway = false → messages = [] ∧ read? = none)) := by
  -- each step of the reader is a move, a wait one for each read of the socket
  have hsound : Sound s.router ⟨s, state, .outside⟩ := sound_of_reached hs state
  refine ⟨?_, fun limit => ?_, fun deeds r hmoves =>
    ⟨attentive_iff hmoves, fun hr later r' hlater => hlater.reads_of_requested hr⟩⟩
  · obtain ⟨marks, hsteps, hreturned⟩ := receive_steps s subscriber state
    obtain ⟨deeds, rfl, hmoves⟩ := moves_of_steps hsound hsteps
    exact ⟨deeds, hmoves, hreturned⟩
  · obtain ⟨marks, hsteps, hverdict⟩ := run_steps limit s subscriber state
    obtain ⟨deeds, rfl, hmoves⟩ := moves_of_steps hsound hsteps
    exact ⟨deeds, hmoves, hverdict⟩

/-- A session that has opened its stream over a connection. -/
def online (connection : WebSocket.Connection) : Session Gateway Socket :=
  let fresh : Session Gateway Socket :=
    Session.create grantingClient {}
      { outcomes := [.accepted (some "rws_subscription") connection] }
      { pollInterval := .ofMilliseconds 500 }
  (fresh.performAll [.start ⟨[⟨"/rw/panel/ctrl-state", .low⟩]⟩]).2

theorem online_eq (connection : WebSocket.Connection) :
    (online connection).phase = .active ∧ (online connection).closeRequested = false ∧
      (online connection).transport? = some { connection } := by
  have h : ((online connection).phase, (online connection).closeRequested,
      (online connection).transport?) = (.active, false, some { connection }) := by cbv
  simpa only [Prod.mk.injEq] using h

/-- A text without events, and nothing more. -/
def greeting : WebSocket.Connection :=
  { arrivals := [.bytes [0x81, 2, 0x68, 0x69]] }

/-- Somebody asks after the look and before the wait, which ends with the first read. -/
theorem greeting_is_read_alone :
    let subscriber : Subscriber Nat := { handle := fun n _ _ => n + 1 }
    let deeds : List Deed := [.step .entered, .step .looked, .step .asked, .step .began,
      .hear (.ok (.frame ⟨0x81, "hi"⟩))]
    (∃ last, Reader.Moves subscriber ⟨online greeting, 0, .outside⟩ deeds last) ∧
      Attentive deeds := by
  intro subscriber deeds
  have hreached : (online greeting).Reached := ⟨_, _, _, _, _, rfl⟩
  obtain ⟨hactive, hrequested, hsocket⟩ := online_eq greeting
  generalize online greeting = s at hreached hactive hrequested hsocket ⊢
  obtain ⟨left, hread⟩ : ∃ left, receiveWithin 1 ({ connection := greeting } : Socket) =
      (some (.ok (.frame ⟨0x81, "hi"⟩)), left) := ⟨_, by rfl⟩
  have hmoves : Reader.Moves subscriber ⟨s, 0, .outside⟩ deeds _ :=
    .move (.step (.enter rfl hactive) (by simp)) (.move (.step (.stay rfl hrequested) (by simp))
      (.move (.step (.ask _) (by simp)) (.move (.step (.begin rfl hsocket) (by simp))
        (.move (.hear rfl hsocket hread) (.refl _)))))
  obtain ⟨-, -, hall⟩ := control_messages_delay_request hreached subscriber 0
  refine ⟨⟨_, hmoves⟩, (hall deeds _ hmoves).1.mpr fun before message after hdeeds => ?_⟩
  have hmem : .answer message ∈ deeds := by simp [hdeeds]
  simp [deeds] at hmem

-- ---------------------------------------------------------------------------
-- Pings
-- ---------------------------------------------------------------------------

/-- This many pings without payload, and nothing more. -/
def pinging (count : Nat) : WebSocket.Connection :=
  { arrivals := List.replicate count (.bytes [0x89, 0]) }

/-- A ping is read from the bytes of an empty one. -/
theorem read_ping (arrivals : List WebSocket.Arrival) (written : List WebSocket.Frame) :
    MessageSocket.read
        ({ connection := { arrivals := .bytes [0x89, 0] :: arrivals, written } } : Socket) =
      (.ok (.ping []),
        { connection := { arrivals, written }, reply? := some (.ofOpcode .pong []) }) := by
  cases arrivals <;> rfl

/-- Pings are read one after the other. -/
theorem Reader.pinging_moves {η : Type} (subscriber : Subscriber η) (count : Nat)
    (written : List WebSocket.Frame) {r : Reader Gateway Socket η} (hplace : r.place = .waiting)
    (hsocket : r.session.transport? = some { connection := { pinging count with written } }) :
    ∃ last, Moves subscriber r
      (List.replicate count (Deed.answer (.ping [])) ++ [Deed.hear (.ok .idle)]) last := by
  induction count generalizing r written with
  | zero => exact ⟨_, .move (.hear hplace hsocket rfl) (.refl _)⟩
  | succ count ih =>
    obtain ⟨last, hmoves⟩ := ih (written ++ [.ofOpcode .pong []]) (r := { r with
      session := { r.session with transport? := some { connection := { pinging count with
        written := written ++ [.ofOpcode .pong []] } } } }) hplace rfl
    exact ⟨last, .move (.answer hplace hsocket (read_ping _ written) rfl rfl) hmoves⟩

/-- There is no bound on the reads that begin after a request and before the next look: one for each
ping, and one more. -/
theorem pings_delay_request {η : Type} (subscriber : Subscriber η) (state : η) (count : Nat) :
    ∃ asked last, Reader.Moves subscriber ⟨online (pinging count), state, .outside⟩
        [.step .entered, .step .looked, .step .asked] asked ∧
      asked.session.closeRequested = true ∧
      Reader.Moves subscriber asked
        (.step .began :: (List.replicate count (Deed.answer (.ping [])) ++ [Deed.hear (.ok .idle)]))
        last := by
  obtain ⟨hactive, hrequested, hsocket⟩ := online_eq (pinging count)
  generalize online (pinging count) = s at hactive hrequested hsocket ⊢
  obtain ⟨last, hmoves⟩ := Reader.pinging_moves subscriber count []
    (r := ⟨s.requestClose.record .receive, state, .waiting⟩) rfl hsocket
  refine ⟨⟨s.requestClose, state, .cleared⟩, last, ?_, rfl,
    .move (.step (.begin rfl hsocket) (by simp)) hmoves⟩
  exact .move (.step (.enter rfl hactive) (by simp)) (.move (.step (.stay rfl hrequested) (by simp))
    (.move (.step (.ask _) (by simp)) (.refl _)))

/-- Two pings arrive after somebody has asked, three reads begin, and the reader does not look. -/
theorem two_pings_hide_request :
    let subscriber : Subscriber Nat := { handle := fun n _ _ => n + 1 }
    let past : List Deed := [.step .entered, .step .looked, .step .asked]
    let later : List Deed :=
      [.step .began, .answer (.ping []), .answer (.ping []), .hear (.ok .idle)]
    (online (pinging 2)).Reached ∧
      (∃ asked last, Reader.Moves subscriber ⟨online (pinging 2), 0, .outside⟩ past asked ∧
        asked.session.closeRequested = true ∧ Reader.Moves subscriber asked later last) ∧
      (later.filter Deed.isRead).length = 3 ∧ .step .looked ∉ later ∧
      ¬ Attentive (past ++ later) := by
  intro subscriber past later
  refine ⟨⟨_, _, _, _, _, rfl⟩, pings_delay_request subscriber 0 2, rfl, by simp [later],
    fun hattentive => ?_⟩
  -- the two pings stand next to each other, with no look in between
  have hlook := hattentive (past ++ [.step .began]) (.answer (.ping [])) [] (.answer (.ping []))
    [.hear (.ok .idle)] rfl rfl rfl
  cases hlook

end RobotWeb.Stream
