import RobotWeb.Controller.Call
import RobotWeb.Text.Numeral

/-!
# Return codes
-/

namespace RobotWeb

open Http (Client)
open Markup (Element)

/-- The description of a return code. -/
structure ReturnCode where
  code : Int32
  name : String
  severity : String
  description : String
  deriving DecidableEq, Repr

namespace ReturnCode

/-- The text of the first element of the class, or the empty text. -/
def textOr (e : Element) (className : String) : String :=
  (e.textOfClass? className).getD ""

/-- Reads a description. Its code has to be present, the other texts may be missing. -/
def ofElement (e : Element) : Except ProtocolError ReturnCode := do
  let text ← Page.requireText e "code"
  match Text.signed32? text with
  | none => throw (.inContext (.notANumber "retcode") text)
  | some code =>
    return ⟨Int32.ofInt code, textOr e "name", textOr e "severity", textOr e "description"⟩

def ofPage (root : Element) (body : String) : Except ProtocolError ReturnCode :=
  match (root.withClass "err-desc").head? with
  | none => .error (.inContext .missingErrorDescription body)
  | some description => ofElement description

def lookUp (c : Client) (code : Int32) : Call ReturnCode :=
  Call.reading (fun answer => do ofPage (← Page.parse answer.body) answer.body)
    (c.get ("/rw/retcode?code=" ++ toString code.toInt))

end ReturnCode

end RobotWeb
