import RobotWeb.Controller.Call
import RobotWeb.Mastership.Domain
import RobotWeb.Text.Form

/-!
# Loading configurations
-/

namespace RobotWeb.Configuration

open Http (Client Answer)

/-- A file of the controller. -/
structure File where
  directory : String
  filename : String
  deriving DecidableEq, Repr

def File.path (f : File) : String :=
  f.directory ++ "/" ++ f.filename

/-- The text in front of the id of a progress resource in a location. -/
def progressMarker : String := "/progress/"

/-- The id of a progress resource in its location: what follows the first marker. -/
def progressId? (location : String) : Option String :=
  match Text.after? progressMarker.toList location.toList with
  | none => none
  | some id => if id.isEmpty then none else some (String.ofList id)

/-- The id of the progress resource that an answer names. -/
def progressOfAnswer (answer : Answer) : Except ProtocolError String :=
  match answer.location.bind progressId? with
  | some id => .ok id
  | none => .error ⟨.missingProgress, none⟩

/-- The statuses of an answer that accepts the loading. -/
def accepted : List Nat := [200, 202, 204]

/-- Loads a file in place of the present configuration. Gives the id of the progress resource that
tracks the loading; a file without a name is refused. -/
def load (c : Client) (file : File) (mode : Mastership.Mode) : Call String :=
  if file.filename.isEmpty then Call.refused c (.missing "filename")
  else
    let form := Text.Form.encode [("filepath", file.path), ("action-type", "replace")]
    Call.reading progressOfAnswer
      (c.send .post ("/rw/cfg/load?mastership=" ++ mode.wireName) (some form) accepted)

end RobotWeb.Configuration
