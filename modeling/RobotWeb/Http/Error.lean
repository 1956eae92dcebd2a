import RobotWeb.Http.Method

/-!
# Failures of HTTP exchanges
-/

namespace RobotWeb

/-- Why a request has no accepted answer. -/
inductive HttpError where
  /-- The connection, the sending or the receiving failed. -/
  | transport (message : String)
  /-- The controller answered with a status that the caller does not accept. -/
  | status (method : Http.Method) (path : String) (status : Nat) (body : String)
  /-- The answer could not be interpreted. -/
  | unreadable (message : String)
  /-- No URL could be built. -/
  | invalidUrl (url reason : String)
  /-- The encryption of the connection could not be set up. -/
  | encryption (message : String)
  deriving DecidableEq, Repr

namespace HttpError

def description : HttpError → String
  | transport message => "Network/HTTP error: " ++ message
  | status method path code _ =>
    "HTTP response status not accepted: " ++ method.name ++ " " ++ path ++ " returned " ++
      toString code
  | unreadable message => "Response parsing error: " ++ message
  | invalidUrl url reason => "Invalid URL '" ++ url ++ "': " ++ reason
  | encryption message => "TLS configuration error: " ++ message

def status? : HttpError → Option Nat
  | status _ _ code _ => some code
  | _ => none

def body? : HttpError → Option String
  | status _ _ _ body => some body
  | _ => none

end HttpError

end RobotWeb
