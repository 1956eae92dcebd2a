import RobotWeb.Http.Error
import RobotWeb.Mastership.Domain
import RobotWeb.Text.Blank

/-!
# Failures of mastership calls
-/

namespace RobotWeb

/-- The two calls about mastership. -/
inductive Mastership.Action where
  | request
  | release
  deriving DecidableEq, Repr

def Mastership.Action.name : Mastership.Action → String
  | .request => "request"
  | .release => "release"

open Mastership in
/-- Why mastership was not acquired or not released. -/
inductive MastershipError where
  /-- The controller refused the call; on a conflict the reason names the holder. -/
  | rejected (domain : Domain) (action : Action) (status : Nat) (reason : String)
  /-- The domain is held by this client. -/
  | alreadyHeld (domain : Domain)
  /-- The call had no answer of the controller. -/
  | transport (domain : Domain) (action : Action) (message : String)
  deriving DecidableEq, Repr

namespace MastershipError

open Mastership (Domain Action)

def domain : MastershipError → Domain
  | rejected d _ _ _ | alreadyHeld d | transport d _ _ => d

def description : MastershipError → String
  | rejected d action status reason =>
    "Mastership " ++ action.name ++ " for domain '" ++ d.wireName ++ "' rejected (HTTP " ++
      toString status ++ "): " ++ reason
  | alreadyHeld d =>
    "Mastership for domain '" ++ d.wireName ++ "' is already held by this client"
  | transport d action message =>
    "Mastership " ++ action.name ++ " for domain '" ++ d.wireName ++ "' failed: " ++ message

/-- The failure of a call whose request failed. The body of a refusal is its reason. -/
def ofHttp (domain : Domain) (action : Action) : HttpError → MastershipError
  | .status _ _ status body =>
    let reason := Text.trim body
    .rejected domain action status (if reason.isEmpty then "no reason given" else reason)
  | other => .transport domain action other.description

end MastershipError

end RobotWeb
