import RobotWeb.Proofs.WebSocket.Uses

/-!
# What a socket has yet to read

A socket reads each message from bytes that have arrived or are to arrive, and every frame takes
some of them. So it can give only so many messages before its connection has nothing more, and a
wait on it comes to its end.

* `Socket.backlog`         — the bytes that are left, and a header that was read before.
* `backlog_read`           — a message takes from them.
* `receive_waits`          — the patience of a wait on a socket is enough.
-/

namespace RobotWeb.WebSocket

open RobotWeb.Stream (FrameTransport)

/-- The number of bytes, and one more for a header that was taken from them before. -/
def heldBack (bytes : List UInt8) (header? : Option Header) : Nat :=
  bytes.length + header?.toList.length

/-- The number of bytes that are to arrive. -/
def arriving (arrivals : List Arrival) : Nat :=
  (arrivals.map Socket.arrivalSize).foldl (· + ·) 0

def Inbox.backlog (inbox : Inbox) : Nat :=
  heldBack inbox.buffer inbox.header? + arriving inbox.arrivals

def Socket.backlog (s : Socket) : Nat :=
  heldBack s.buffer s.header? + arriving s.connection.arrivals

theorem arriving_cons (arrival : Arrival) (arrivals : List Arrival) :
    arriving (arrival :: arrivals) = Socket.arrivalSize arrival + arriving arrivals := by
  rw [arriving, List.map_cons, List.foldl_cons, Nat.zero_add, ← Nat.add_zero (Socket.arrivalSize _),
    List.foldl_assoc, arriving]
  rfl

-- ---------------------------------------------------------------------------
-- Frames
-- ---------------------------------------------------------------------------

/-- Taking bytes leaves no more than there were. -/
theorem takeBytes?_length {count : Nat} {bytes taken rest : List UInt8}
    (h : takeBytes? count bytes = some (taken, rest)) : rest.length ≤ bytes.length := by
  unfold takeBytes? at h
  split at h
  · obtain ⟨-, rfl⟩ := by simpa using h
    simp
  · cases h

theorem readLength?_length {short length : Nat} {bytes rest : List UInt8}
    (h : readLength? short bytes = some (length, rest)) : rest.length ≤ bytes.length := by
  unfold readLength? at h
  dsimp only at h
  generalize (if short = 126 then 2 else if short = 127 then 8 else 0) = width at h
  split at h
  · obtain ⟨-, rfl⟩ := by simpa using h
    exact Nat.le_refl _
  · obtain ⟨⟨long, more⟩, htaken, hlong⟩ := Option.map_eq_some_iff.mp h
    obtain ⟨-, rfl⟩ := Prod.mk.inj hlong
    exact takeBytes?_length htaken

/-- A header takes two bytes or more. -/
theorem readHeader?_length {bytes rest : List UInt8} {header : Header}
    (h : readHeader? bytes = some (header, rest)) : rest.length + 2 ≤ bytes.length := by
  match bytes with
  | [] | [_] => cases h
  | first :: second :: bytes =>
    simp only [readHeader?, Option.bind_eq_bind, Option.bind_eq_some_iff, Prod.exists] at h
    obtain ⟨length, behind, hlength, mask, left, hmask, heq⟩ := h
    obtain ⟨-, rfl⟩ := by simpa using heq
    have hbehind := readLength?_length hlength
    have hleft := takeBytes?_length hmask
    simp only [List.length_cons]
    omega

/-- A payload that is taken leaves less held back, and one that has to be waited for leaves no more.
-/
theorem takePayload_heldBack {header : Header} {bytes rest : List UInt8} {front : Front}
    {header? : Option Header} (h : takePayload header bytes = (front, rest, header?)) :
    heldBack rest header? ≤ heldBack bytes (some header) ∧
      ∀ header payload, front = .frame header payload →
        heldBack rest header? < heldBack bytes (some header) := by
  unfold takePayload at h
  split at h
  · obtain ⟨rfl, rfl, rfl⟩ := by simpa using h
    exact ⟨Nat.le_refl _, by simp⟩
  · split at h
    · rename_i payload rest' htaken
      obtain ⟨rfl, rfl, rfl⟩ := by simpa using h
      have hrest := takeBytes?_length htaken
      simp only [heldBack, Option.toList_none, List.length_nil, Option.toList_some,
        List.length_singleton]
      exact ⟨by omega, fun _ _ _ => by omega⟩
    · obtain ⟨rfl, rfl, rfl⟩ := by simpa using h
      exact ⟨Nat.le_refl _, by simp⟩

/-- What is taken from the front leaves no more than there was, and a frame leaves less. -/
theorem takeFront_heldBack {bytes rest : List UInt8} {front : Front}
    {header? left? : Option Header} (h : takeFront bytes header? = (front, rest, left?)) :
    heldBack rest left? ≤ heldBack bytes header? ∧
      ∀ header payload, front = .frame header payload →
        heldBack rest left? < heldBack bytes header? := by
  unfold takeFront at h
  -- the payload of a header that was read before, or a header first
  split at h
  · exact takePayload_heldBack h
  · split at h
    · obtain ⟨rfl, rfl, rfl⟩ := by simpa using h
      exact ⟨Nat.le_refl _, by simp⟩
    · rename_i header behind hheader
      have hbehind := readHeader?_length hheader
      split at h
      · obtain ⟨rfl, rfl, rfl⟩ := by simpa using h
        simp only [heldBack, Option.toList_none, List.length_nil]
        exact ⟨by omega, by simp⟩
      · obtain ⟨hle, hlt⟩ := takePayload_heldBack h
        simp only [heldBack, Option.toList_none, List.length_nil, Option.toList_some,
          List.length_singleton] at hle hlt ⊢
        exact ⟨by omega, fun header payload hfront => by have := hlt header payload hfront; omega⟩

/-- A wait for a frame leaves no more than there was, and a frame leaves less. -/
theorem fetch_backlog {bytes : List UInt8} {header? : Option Header} {arrivals : List Arrival}
    {fetched : Fetched} {inbox : Inbox} (h : fetch bytes header? arrivals = (fetched, inbox)) :
    inbox.backlog ≤ heldBack bytes header? + arriving arrivals ∧
      ∀ header payload, fetched = .frame header payload →
        inbox.backlog < heldBack bytes header? + arriving arrivals := by
  obtain ⟨⟨front, rest, left?⟩, hfront⟩ : ∃ r, takeFront bytes header? = r := ⟨_, rfl⟩
  have htaken := takeFront_heldBack hfront
  -- over the arrivals: bytes that do not make up a frame are held back with those that arrive
  induction arrivals generalizing bytes header? front rest left? with
  | nil =>
    rw [fetch, hfront] at h
    cases front with
    | frame header payload | violation rule | incomplete =>
      obtain ⟨rfl, rfl⟩ := Prod.mk.inj h
      simpa [Inbox.backlog] using htaken
  | cons arrival arrivals ih =>
    rw [fetch, hfront] at h
    have hsize := arriving_cons arrival arrivals
    cases front with
    | frame header payload | violation rule =>
      obtain ⟨rfl, rfl⟩ := Prod.mk.inj h
      simpa [Inbox.backlog] using htaken
    | incomplete =>
      have hheld := htaken.1
      cases arrival with
      | bytes more =>
        obtain ⟨⟨front, rest', left'?⟩, hnext⟩ : ∃ r, takeFront (rest ++ more) left? = r := ⟨_, rfl⟩
        have hlater := ih h _ _ _ hnext (takeFront_heldBack hnext)
        have hmore : heldBack (rest ++ more) left? = heldBack rest left? + more.length := by
          simp only [heldBack, List.length_append]
          omega
        rw [hmore] at hlater
        rw [hsize, Socket.arrivalSize]
        refine ⟨by omega, fun header payload hframe => ?_⟩
        have hless := hlater.2 header payload hframe
        omega
      | fault fault | endOfStream =>
        obtain ⟨rfl, rfl⟩ := Prod.mk.inj h
        rw [hsize, Inbox.backlog]
        dsimp only
        exact ⟨by omega, by simp⟩

-- ---------------------------------------------------------------------------
-- Messages
-- ---------------------------------------------------------------------------

/-- Writing does not touch what arrives. -/
theorem Connection.write_arrivals (c : Connection) (frames : List Frame) :
    (c.write frames).2.arrivals = c.arrivals := by
  unfold write
  split
  · split <;> rfl
  · rfl

/-- Neither does flushing. -/
theorem Connection.flush_arrivals (c : Connection) : c.flush.2.arrivals = c.arrivals := by
  unfold flush
  split
  · rfl
  · split <;> rfl

namespace Socket

/-- The backlog counts what is buffered and what arrives, and nothing else. -/
theorem backlog_eq {s t : Socket} (hbuffer : s.buffer = t.buffer) (hheader : s.header? = t.header?)
    (harrivals : s.connection.arrivals = t.connection.arrivals) : s.backlog = t.backlog := by
  rw [backlog, backlog, hbuffer, hheader, harrivals]

/-- What is written does not matter to what is to be read. -/
theorem backlog_flush (s : Socket) : s.flush.2.backlog = s.backlog := by
  have hwritten := s.queueReply.connection.write_arrivals s.queueReply.outgoing
  unfold flush
  dsimp only
  split
  · rename_i fault connection hwrite
    rw [hwrite] at hwritten
    exact backlog_eq rfl rfl hwritten
  · rename_i connection hwrite
    rw [hwrite] at hwritten
    have hflushed := connection.flush_arrivals
    split
    · rename_i fault connection' hflush
      rw [hflush] at hflushed
      exact backlog_eq rfl rfl (hflushed.trans hwritten)
    · rename_i connection' hflush
      rw [hflush] at hflushed
      exact backlog_eq rfl rfl (hflushed.trans hwritten)

/-- Replies that are flushed do not matter to it either. -/
theorem backlog_flushReply (s : Socket) : s.flushReply.2.backlog = s.backlog := by
  have hflushed := s.backlog_flush
  unfold flushReply
  split
  · split
    · rename_i t hflush
      rw [hflush] at hflushed
      exact hflushed
    · exact hflushed
  · rfl

theorem backlog_setReply (s : Socket) (reply : Frame) : (s.setReply reply).backlog = s.backlog := by
  unfold setReply
  split
  · rfl
  · split <;> rfl

/-- A control frame is received without a look at what arrives. -/
theorem backlog_receiveControl (s : Socket) (opcode : Stream.Opcode) (payload : List UInt8) :
    (s.receiveControl opcode payload).2.backlog = s.backlog := by
  -- only a reply is set, which is not counted
  have hclose (reason : Option CloseReason) : (s.receiveClose reason).2.backlog = s.backlog := by
    unfold receiveClose
    split
    · exact backlog_setReply _ _
    · rfl
    · rfl
  unfold receiveControl
  split
  · split
    · rfl
    · exact hclose _
  · dsimp only
    split
    · exact backlog_setReply _ _
    · rfl
  · rfl

/-- A part of a message is joined without a look at what arrives. -/
theorem backlog_continueMessage (s : Socket) (m : Unfinished) (final : Bool)
    (payload : List UInt8) : (s.continueMessage m final payload).2.backlog = s.backlog := by
  unfold continueMessage
  split
  · rfl
  · split
    · split <;> rfl
    · rfl

/-- A frame with data is received without a look at what arrives. -/
theorem backlog_receiveData (s : Socket) (opcode : Stream.Opcode) (final : Bool)
    (payload : List UInt8) : (s.receiveData opcode final payload).2.backlog = s.backlog := by
  unfold receiveData
  split
  · rfl
  · exact backlog_continueMessage _ _ _ _
  · rfl
  · dsimp only
    split
    · rename_i e t hresult
      exact (congrArg (·.2.backlog) hresult).symm.trans (s.backlog_continueMessage _ _ _)
    · exact s.backlog_continueMessage _ _ _

/-- What is made of a frame does not matter either. -/
theorem backlog_receiveFetched (s : Socket) (fetched : Fetched) :
    (s.receiveFetched fetched).2.backlog = s.backlog := by
  unfold receiveFetched
  split
  · unfold receiveFrame
    repeat' split
    · rfl
    · rfl
    · rfl
    · exact backlog_receiveData _ _ _ _
    · rfl
    · rfl
    · exact backlog_receiveControl _ _ _
  · rfl
  · split <;> rfl
  · dsimp only
    split <;> rfl

/-- A message that was received came from a frame. -/
theorem receiveFetched_eq_ok {s t : Socket} {fetched : Fetched} {message? : Option Message}
    (h : s.receiveFetched fetched = (.ok message?, t)) :
    ∃ header payload, fetched = .frame header payload := by
  cases fetched with
  | frame header payload => exact ⟨header, payload, rfl⟩
  | violation rule => cases h
  | fault fault =>
    unfold receiveFetched at h
    dsimp only at h
    split at h <;> cases h
  | endOfStream =>
    unfold receiveFetched at h
    dsimp only at h
    split at h <;> cases h

/-- A frame that is fetched makes the backlog smaller, and nothing makes it larger. -/
theorem backlog_fetchFrame {s t : Socket} {fetched : Fetched}
    (h : s.fetchFrame = (fetched, t)) :
    t.backlog ≤ s.backlog ∧
      ∀ header payload, fetched = .frame header payload → t.backlog < s.backlog := by
  obtain ⟨⟨fetched', inbox⟩, hfetch⟩ :
      ∃ r, fetch s.buffer s.header? s.connection.arrivals = r := ⟨_, rfl⟩
  rw [fetchFrame, hfetch] at h
  obtain ⟨rfl, rfl⟩ := Prod.mk.inj h
  exact fetch_backlog hfetch

/-- A message that is read leaves less to be read. -/
theorem backlog_readWithin {limit : Nat} {s t : Socket} {message : Message}
    (h : s.readWithin limit = (.ok message, t)) : t.backlog < s.backlog := by
  -- over the frames: only a frame makes the backlog smaller, and nothing makes it grow
  induction limit generalizing s with
  | zero => cases h
  | succ limit ih =>
    obtain ⟨⟨replied, s₁⟩, hreply⟩ : ∃ r, s.flushReply = r := ⟨_, rfl⟩
    obtain ⟨⟨fetched, s₂⟩, hfetch⟩ : ∃ r, s₁.fetchFrame = r := ⟨_, rfl⟩
    obtain ⟨⟨received, s₃⟩, hreceive⟩ : ∃ r, s₂.receiveFetched fetched = r := ⟨_, rfl⟩
    have h₁ := s.backlog_flushReply
    have h₂ := backlog_fetchFrame hfetch
    have h₃ := s₂.backlog_receiveFetched fetched
    rw [hreply] at h₁
    rw [hreceive] at h₃
    dsimp only at h₁ h₃
    rw [readWithin, hreply] at h
    match replied with
    | .error e => cases h
    | .ok () =>
      simp only [hfetch, hreceive] at h
      match received with
      | .error e => cases h
      | .ok message? =>
        obtain ⟨header, payload, hframe⟩ := receiveFetched_eq_ok hreceive
        have hless := h₂.2 header payload hframe
        cases message? with
        | some message' =>
          obtain ⟨-, rfl⟩ := Prod.mk.inj h
          omega
        | none =>
          have hlater := ih h
          omega

/-- So does any read that gives a message, however many frames this has. -/
theorem backlog_read {s t : Socket} {message : Message} (h : s.read = (.ok message, t)) :
    t.backlog < s.backlog := by
  unfold read at h
  split at h
  · cases h
  · exact backlog_readWithin h

-- ---------------------------------------------------------------------------
-- Waits
-- ---------------------------------------------------------------------------

/-- The number of frames that are left exceeds the backlog. -/
theorem backlog_lt_framesLeft (s : Socket) : s.backlog < s.framesLeft + 1 := by
  have hheader : s.header?.toList.length ≤ 1 := by cases s.header? <;> simp
  simp only [backlog, heldBack, arriving, framesLeft]
  omega

/-- A wait with patience for more messages than there can be gives an outcome. -/
theorem exists_receiveWithin {limit : Nat} {s : Socket} (h : s.backlog < limit) :
    ∃ outcome t, receiveWithin limit s = (some outcome, t) := by
  -- over the limit: a control message takes something away from what there is to read
  induction limit generalizing s with
  | zero => omega
  | succ limit ih =>
    rcases wait_cases s with ⟨e, t, hread⟩ | ⟨message, given, t, hread, hmessage⟩ |
      ⟨message, t, hread, hmessage, ⟨e, t', hflush⟩ | ⟨t', hflush⟩⟩
    · exact ⟨_, _, receiveWithin_of_unread hread⟩
    · exact ⟨_, _, receiveWithin_of_read hread hmessage⟩
    · exact ⟨_, _, receiveWithin_of_unflushed hread hmessage hflush⟩
    · have hless : t.backlog < s.backlog := backlog_read hread
      have hflushed : t'.backlog = t.backlog := by
        have := t.backlog_flush
        rwa [show t.flush = (.ok (), t') from hflush] at this
      obtain ⟨outcome, last, hlater⟩ := ih (s := t') (by omega)
      exact ⟨outcome, last, (receiveWithin_of_control hread hmessage hflush).trans hlater⟩

/-- The patience of a wait on a socket is enough. -/
theorem receive_waits (s : Socket) :
    Waits s [(FrameTransport.receive s).1.read] (FrameTransport.receive s).2 := by
  obtain ⟨outcome, t, h⟩ := exists_receiveWithin s.backlog_lt_framesLeft
  have hreceive : FrameTransport.receive s = (⟨outcome, false, false⟩, t) := by
    simp only [FrameTransport.receive, h, Option.getD_some]
  rw [hreceive]
  exact .wait h (.nil t)

end Socket

end RobotWeb.WebSocket
