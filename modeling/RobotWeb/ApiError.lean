import RobotWeb.Mastership.Error
import RobotWeb.ValidationError

/-!
# Failures of operations

Every operation on the controller fails for one of four reasons.
-/

namespace RobotWeb

/-- Why an operation failed. -/
inductive ApiError where
  | protocol (cause : ProtocolError)
  | mastership (cause : MastershipError)
  | validation (cause : ValidationError)
  | transport (message : String)
  deriving DecidableEq, Repr

namespace ApiError

def description : ApiError → String
  | protocol cause => cause.description
  | mastership cause => cause.description
  | validation cause => cause.description
  | transport message => "Transport error: " ++ message

/-- The failure of an operation whose request failed. It is never the fault of a value that the
caller gave. -/
def ofHttp : HttpError → ApiError
  | .transport message => transport message
  | .encryption message => transport message
  | .status method path status body =>
    protocol (.inContext (.unexpectedStatus method path status) body)
  | .unreadable message => protocol ⟨.stated message, none⟩
  | .invalidUrl url reason => protocol (.inContext (.invalidUrl reason) url)

end ApiError

end RobotWeb
