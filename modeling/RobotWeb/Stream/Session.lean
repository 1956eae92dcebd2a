import RobotWeb.Stream.Router
import RobotWeb.Stream.Transport
import RobotWeb.Subscription

/-!
# Sessions

A session creates a subscription group, keeps the stream of the group open and hands the events on
it to a subscriber. It deletes the group and closes the stream when it ends, in whatever way it
does: closed by the caller or by a request of another thread, closed by the controller, failed, or
dropped; only a detached session leaves its group behind.
-/

namespace RobotWeb.Stream

/-- What a session does to the outside, and whether it succeeded. -/
inductive Effect where
  /-- Asks for a group with the given form; `group` is its id. -/
  | subscribe (form : String) (group : Option String)
  /-- Deletes a group. -/
  | unsubscribe (group : String) (ok : Bool)
  /-- Opens the stream of a group. -/
  | connect (locator : Locator) (protocol : String) (ok : Bool)
  /-- Waits for a frame. -/
  | receive
  /-- Replaces the resources of a group. -/
  | update (group form : String) (ok : Bool)
  /-- Closes the stream. -/
  | closeStream (ok : Bool)
  deriving DecidableEq, Repr

/-- The receiver of events: what an event does to its state, and whether it has asked the session
to close. -/
structure Subscriber (η : Type) where
  handle : Handler η
  asksToClose : η → Bool := fun _ => false

/-- What comes of one receive. -/
inductive Received where
  /-- A frame arrived, and this many events were delivered. -/
  | delivered (count : Nat)
  /-- No frame with events arrived. -/
  | idle
  /-- The session is closed. -/
  | closed
  deriving DecidableEq, Repr

/-- A session: its client, what routes its events, how its stream is opened, and where it is in its
life. It comes with the streams that it has let go of, as their closing has left them, and with what
it has done to the outside, the first effect first. -/
structure Session (κ τ : Type) where
  client : Http.Client
  router : Router
  connector : κ
  options : Options := {}
  phase : Phase := .unopened
  group? : Option String := none
  transport? : Option τ := none
  closeRequested : Bool := false
  released : List τ := []
  trace : List Effect := []

namespace Session

variable {κ τ η : Type}

-- ---------------------------------------------------------------------------
-- Ending
-- ---------------------------------------------------------------------------

def note (s : Session κ τ) (level : Log.Level) (message : String) : Session κ τ :=
  { s with client := s.client.note level message }

def record (s : Session κ τ) (e : Effect) : Session κ τ :=
  { s with trace := s.trace ++ [e] }

/-- The failure of an operation that the phase does not allow. -/
def misuse (s : Session κ τ) (operation : String) : SessionError :=
  .invalidState operation s.phase

/-- Deletes the group, if there is one. A failure is only logged. -/
def unsubscribe (s : Session κ τ) : Session κ τ :=
  match s.group? with
  | none => s
  | some group =>
    match s.client.unsubscribe group with
    | (.ok (), client) => { s with client, group? := none }.record (.unsubscribe group true)
    | (.error _, client) =>
      ({ s with client, group? := none }.record (.unsubscribe group false)).note .warn
        "failed to delete subscription group"

variable [FrameTransport τ]

/-- Closes the stream, if there is one. A failure is ignored. -/
def closeStream (s : Session κ τ) : Session κ τ :=
  match s.transport? with
  | none => s
  | some transport =>
    let (outcome, closed) := FrameTransport.close transport
    { s with transport? := none, released := s.released ++ [closed] }.record
      (.closeStream outcome.isOk)

def shutDown (s : Session κ τ) : Session κ τ :=
  let s := { s with phase := .closing }.unsubscribe.closeStream
  { s with phase := .closed }.note .info "subscription session closed"

def fail (s : Session κ τ) : Session κ τ :=
  { s.closeStream.unsubscribe with phase := .failed }

-- ---------------------------------------------------------------------------
-- Starting
-- ---------------------------------------------------------------------------

/-- Opens the stream of the group that was created. -/
def connectTo [StreamConnector κ τ] (s : Session κ τ) (locator : Locator) :
    Except SessionError Unit × Session κ τ :=
  match StreamConnector.connect s.connector s.client locator s.options with
  | (.ok transport, connector) =>
    let s := { s with connector, transport? := some transport, phase := .active }
    (.ok (), (s.record (.connect locator s.options.protocol true)).note .info
      "subscription session active")
  | (.error e, connector) =>
    let s := { s with connector }.record (.connect locator s.options.protocol false)
    (.error (.transport e), (s.note .warn "failed to open event stream").fail)

/-- Creates the group of a subscription and opens its stream. Nothing is tried again, and a group
whose stream cannot be opened is deleted. -/
def start [StreamConnector κ τ] (s : Session κ τ) (subscription : Subscription) :
    Except SessionError Unit × Session κ τ :=
  if s.phase ≠ .unopened then (.error (s.misuse "open"), s)
  else if subscription.isEmpty then (.error (.api (.validation (.missing "resources"))), s)
  else
    let form := subscription.encodeBody
    match s.client.subscribe form with
    | (.error e, client) =>
      let s := { s with client, phase := .failed }.record (.subscribe form none)
      (.error (.ofHttp e), s.note .warn "subscription request failed")
    | (.ok group, client) =>
      let s := { s with client, phase := .requesting, group? := some group.id }.record
        (.subscribe form (some group.id))
      match s.client.streamUrl group.location with
      | .error e =>
        (.error (.ofHttp e), (s.note .warn "no stream location for group").fail)
      | .ok url => s.connectTo ⟨group.id, url⟩

-- ---------------------------------------------------------------------------
-- Receiving
-- ---------------------------------------------------------------------------

def reject (s : Session κ τ) (e : ProtocolError) : SessionError × Session κ τ :=
  (.frame e, s.note .warn "rejecting frame")

/-- Delivers the events of a frame. One that closes the stream ends the session, and other frames
without events are ignored. -/
def deliver (s : Session κ τ) (subscriber : Subscriber η) (state : η) (frame : Frame) :
    Except SessionError Received × η × Session κ τ :=
  if frame.opcode = .close then (.ok .closed, state, s.shutDown)
  else if !frame.opcode.isData then (.ok .idle, state, s)
  else
    match ParsedFrame.parse frame.content with
    | .error e =>
      let (e, s) := s.reject e
      (.error e, state, s)
    | .ok parsed =>
      match s.router.deliverFrame subscriber.handle state parsed with
      | (.error e, state) =>
        let (e, s) := s.reject e
        (.error e, state, s)
      | (.ok count, state) => (.ok (.delivered count), state, s)

/-- Notes the requests to close that came with the events or after the wait. -/
def noteRequests (subscriber : Subscriber η) (wait : Wait) :
    Except SessionError Received × η × Session κ τ →
      Except SessionError Received × η × Session κ τ
  | (outcome, state, s) =>
    let asked := s.closeRequested || subscriber.asksToClose state || wait.askedAfter
    (outcome, state, { s with closeRequested := asked })

def conclude (s : Session κ τ) (subscriber : Subscriber η) (state : η)
    (read : Except TransportError FrameRead) :
    Except SessionError Received × η × Session κ τ :=
  match read with
  | .ok (.frame frame) => s.deliver subscriber state frame
  | .ok .idle =>
    if s.closeRequested then (.ok .closed, state, s.shutDown) else (.ok .idle, state, s)
  | .ok .closed => (.ok .closed, state, s.shutDown)
  | .error e => (.error (.transport e), state, (s.note .error "event stream failed").fail)

/-- Waits for one frame and delivers its events. A rejected frame leaves the session active. -/
def receive (s : Session κ τ) (subscriber : Subscriber η) (state : η) :
    Except SessionError Received × η × Session κ τ :=
  match s.phase with
  | .closed => (.ok .closed, state, s)
  | .active =>
    if s.closeRequested then (.ok .closed, state, s.shutDown)
    else
      match s.transport? with
      | none => s.conclude subscriber state (.ok .closed)
      | some transport =>
        let (wait, transport) := FrameTransport.receive transport
        let s := { s with
          transport? := some transport
          closeRequested := s.closeRequested || wait.askedDuring }
        noteRequests subscriber wait ((s.record .receive).conclude subscriber state wait.read)
  | _ => (.error (s.misuse "receive"), state, s)

/-- Receives until the session ends, but at most `limit` times; there is no outcome if the session
has not ended by then. Rejected frames are skipped. -/
def run (limit : Nat) (s : Session κ τ) (subscriber : Subscriber η) (state : η) :
    Option (Except SessionError Unit) × η × Session κ τ :=
  match limit with
  | 0 => (none, state, s)
  | limit + 1 =>
    match s.receive subscriber state with
    | (.ok .closed, state, s) => (some (.ok ()), state, s)
    | (.ok _, state, s) => run limit s subscriber state
    | (.error e, state, s) =>
      if !e.isTerminal && s.phase = .active then
        run limit (s.note .warn "skipping frame") subscriber state
      else (some (.error e), state, s)

-- ---------------------------------------------------------------------------
-- Other operations
-- ---------------------------------------------------------------------------

/-- Replaces the resources of the group and what routes their events, both or neither. -/
def update (s : Session κ τ) (subscription : Subscription) (router : Router) :
    Except SessionError Unit × Session κ τ :=
  if s.phase ≠ .active then (.error (s.misuse "update"), s)
  else if subscription.isEmpty then (.error (.api (.validation (.missing "resources"))), s)
  else
    match s.group? with
    | none => (.ok (), { s with router })
    | some group =>
      let form := subscription.encodeBody
      match s.client.updateSubscription group form with
      | (.error e, client) =>
        (.error (.update (.ofHttp e)), { s with client }.record (.update group form false))
      | (.ok (), client) =>
        (.ok (), { s with client, router }.record (.update group form true))

/-- Closes the session; one that has ended stays as it is. -/
def close (s : Session κ τ) : Session κ τ :=
  match s.phase with
  | .unopened => { s with phase := .closed }
  | .active => s.shutDown
  | _ => s

/-- Closes the stream and leaves the group on the controller. Gives the id of the group. -/
def detach (s : Session κ τ) : Option String × Session κ τ :=
  if s.phase ≠ .active then (none, s)
  else
    let s := s.closeStream
    (s.group?, { s with phase := .closed, group? := none }.note .info
      "subscription session detached")

/-- Asks the session to close at the next look at the request. -/
def requestClose (s : Session κ τ) : Session κ τ :=
  { s with closeRequested := true }

/-- Lets go of the session, which closes it if it is active. -/
def drop (s : Session κ τ) : Session κ τ :=
  if s.phase = .active then s.close else s

/-- The quoted text of an id of printable characters. -/
def quoted (id : String) : String :=
  let escape (c : Char) : String := match c with
    | '"' => "\\\""
    | '\\' => "\\\\"
    | '\t' => "\\t"
    | c => c.toString
  "\"" ++ String.join (id.toList.map escape) ++ "\""

def describe (s : Session κ τ) : String :=
  let group := match s.group? with
    | some id => "Some(" ++ quoted id ++ ")"
    | none => "None"
  "SubscriptionSession \x7b state: " ++ s.phase.name ++ ", group_id: " ++ group ++
    ", resources: " ++ toString s.router.resources.length ++ " \x7d"

end Session

end RobotWeb.Stream
