import RobotWeb.Duration
import RobotWeb.Http.Error
import RobotWeb.Url.Parser

/-!
# Connection options

Where the controller is and how it is reached. The defaults are those of a controller that nobody
has configured.
-/

namespace RobotWeb.Http

/-- Where and how to reach the controller. A busy answer is retried once for each entry of the
backoff. -/
structure Options where
  baseUrl : Url
  username : String := "Default User"
  password : String := "robotics"
  connectTimeout : Duration := ⟨5, 0, by decide, by decide⟩
  readTimeout : Duration := ⟨10, 0, by decide, by decide⟩
  writeTimeout : Duration := ⟨10, 0, by decide, by decide⟩
  retryBackoff : List Duration := []
  acceptsInvalidCertificates : Bool := false
  deriving DecidableEq, Repr

/-- The default options for the URL that a text stands for. -/
def Options.parse (baseUrl : String) : Except HttpError Options :=
  match Url.parse baseUrl with
  | .ok url => .ok { baseUrl := url }
  | .error fault => .error (.invalidUrl baseUrl fault.message)

/-- The text of the base URL of a host and a port. -/
def hostUrl (host : String) (port : Nat) : String :=
  "https://" ++ host ++ ":" ++ toString port ++ "/"

/-- The default options for a controller that is reached over an encrypted connection. -/
def Options.forHost (host : String) (port : Nat) : Except HttpError Options :=
  Options.parse (hostUrl host port)

end RobotWeb.Http
