import RobotWeb.ApiError
import RobotWeb.Http.Client
import RobotWeb.Page

/-!
# Calls of the controller

An operation on the controller sends at most one request and reads its answer.
-/

namespace RobotWeb

open Http (Client Answer)

/-- What an operation on the controller gives, and the client after it. -/
abbrev Call (α : Type) := Except ApiError α × Client

def Call.reading {α : Type} (read : Answer → Except ProtocolError α) :
    Http.Reply Answer → Call α
  | (.error e, c) => (.error (.ofHttp e), c)
  | (.ok answer, c) =>
    match read answer with
    | .ok a => (.ok a, c)
    | .error e => (.error (.protocol e), c)

/-- Ignores what is in the answer of a request. -/
def Call.ignoring (reply : Http.Reply Answer) : Call Unit :=
  Call.reading (fun _ => .ok ()) reply

/-- Refuses a value of the caller without sending anything. -/
def Call.refused {α : Type} (c : Client) (e : ValidationError) : Call α :=
  (.error (.validation e), c)

/-- The mandatory text of a class in the page of an answer. -/
def Page.fieldOf (className : String) (answer : Answer) : Except ProtocolError String := do
  Page.requireText (← Page.parse answer.body) className

end RobotWeb
