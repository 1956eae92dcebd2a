import RobotWeb.ApiError

/-!
# Failures of sessions
-/

namespace RobotWeb.Stream

/-- The phases of a session. Requesting and closing are passed through inside one operation. -/
inductive Phase where
  | unopened
  | requesting
  | active
  | closing
  | closed
  | failed
  deriving DecidableEq, Repr

namespace Phase

def all : List Phase :=
  [unopened, requesting, active, closing, closed, failed]

def name : Phase → String
  | unopened => "Unopened"
  | requesting => "Requesting"
  | active => "Active"
  | closing => "Closing"
  | closed => "Closed"
  | failed => "Failed"

/-- Whether the session can no longer receive events. -/
def isFinished : Phase → Bool
  | closed | failed => true
  | _ => false

end Phase

/-- Why a stream failed. -/
inductive TransportError where
  | connect (url message : String)
  | read (message : String)
  | close (message : String)
  deriving DecidableEq, Repr

def TransportError.description : TransportError → String
  | connect url message => "Failed to open stream " ++ url ++ ": " ++ message
  | read message => "Stream read failed: " ++ message
  | close message => "Stream close failed: " ++ message

/-- Why an operation of a session failed. -/
inductive SessionError where
  /-- The subscription was not negotiated. -/
  | api (cause : ApiError)
  /-- The controller keeps the previous resources of the group. -/
  | update (cause : ApiError)
  /-- A frame was rejected as a whole. -/
  | frame (cause : ProtocolError)
  /-- The stream failed. -/
  | transport (cause : TransportError)
  /-- The session's phase does not allow the operation. -/
  | invalidState (operation : String) (phase : Phase)
  deriving DecidableEq, Repr

namespace SessionError

def description : SessionError → String
  | api cause => cause.description
  | update cause => "Subscription update failed: " ++ cause.description
  | frame cause => "Frame rejected: " ++ cause.description
  | transport cause => cause.description
  | invalidState operation phase =>
    "Cannot " ++ operation ++ " a session in state " ++ phase.name

/-- Whether the failure ends the session. Values that the caller gave, a rejected frame, a refused
update and a misuse do not. -/
def isTerminal : SessionError → Bool
  | api (.validation _) => false
  | api _ | transport _ => true
  | update _ | frame _ | invalidState _ _ => false

/-- The failure of an operation whose request failed. -/
def ofHttp (e : HttpError) : SessionError :=
  api (.ofHttp e)

end SessionError

end RobotWeb.Stream
