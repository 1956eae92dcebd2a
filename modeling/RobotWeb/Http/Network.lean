import RobotWeb.Http.Method
import RobotWeb.Url.Basic

/-!
# The network

What lies between the client and the controller: the requests that were sent, and what comes back
for the next ones. Nothing is assumed about the outcomes, so every behaviour of a controller and
of the connection to it is a list of them.
-/

namespace RobotWeb.Http

/-- A request as it is sent. -/
structure Request where
  method : Method
  url : Url
  body : Option String
  authorization : String
  cookie : Option String
  deriving DecidableEq, Repr

/-- An answer of the controller, which is one as soon as its headers have arrived. If its body
breaks off then, there is a reason why, and `body` is void. -/
structure Answer where
  status : Nat
  location : Option String := none
  setCookies : List String := []
  body : String := ""
  bodyFault? : Option String := none
  deriving DecidableEq, Repr

/-- Whether the answer has arrived to the end of its body. -/
def Answer.isWhole (a : Answer) : Bool :=
  a.bodyFault?.isNone

/-- What comes of a request: an answer, or the reason why there is none. -/
abbrev Outcome := Except String Answer

/-- The outcomes of the requests to come and the requests so far, the first one first. -/
structure Network where
  outcomes : List Outcome := []
  requests : List Request := []

namespace Network

/-- The reason for the failure of a request that no outcome is left for. -/
def unreachable : String := "Connection Failed"

def exchange (n : Network) (request : Request) : Outcome × Network :=
  match n.outcomes with
  | [] => (.error unreachable, ⟨[], n.requests ++ [request]⟩)
  | outcome :: rest => (outcome, ⟨rest, n.requests ++ [request]⟩)

end Network

end RobotWeb.Http
