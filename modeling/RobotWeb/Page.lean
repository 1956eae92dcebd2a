import RobotWeb.Markup.Document
import RobotWeb.Markup.Search
import RobotWeb.ProtocolError

/-!
# Pages of the controller

Responses and event frames are XHTML pages whose meaningful elements carry a class. A page that
is not well formed, or that lacks a mandatory field, is a protocol error.
-/

namespace RobotWeb.Page

open Markup (Element)

def parse (content : String) : Except ProtocolError Element :=
  match Markup.parse content with
  | .ok root => .ok root
  | .error cause => .error (.inContext (.malformedMarkup cause) content)

/-- The trimmed text of the first element of the class, which has to be present and not blank. -/
def requireText (root : Element) (className : String) : Except ProtocolError String :=
  match (root.textOfClass? className).filter (!·.isEmpty) with
  | some text => .ok text
  | none => .error (.inContext (.missingField className) root.describe)

end RobotWeb.Page
