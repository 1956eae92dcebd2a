import RobotWeb.Markup.Element
import RobotWeb.Markup.Tag

/-!
# Namespaces

Namespace declarations among the attributes of a start tag, and the checks that every prefix in
use is bound. Names lose their prefixes afterwards, so a later attribute takes the place of an
earlier one with the same local name.
-/

namespace RobotWeb.Markup

/-- The authority that the two reserved namespaces belong to. -/
def reservedAuthority : String := "http://www.w3.org/"

/-- The namespace that the prefix `xml` is always bound to. -/
def xmlNamespace : String := reservedAuthority ++ "XML/1998/namespace"

def declarationNamespace : String := reservedAuthority ++ "2000/xmlns/"

/-- Whether an attribute of this name declares a namespace. -/
def QName.declaresScope (name : QName) : Bool :=
  name.scope == some "xmlns" || name == ⟨none, "xmlns"⟩

/-- The bound prefixes after the declaration `name="value"`. -/
def declareScope (bound : List String) (name : QName) (value : String) :
    Except Malformed (List String) :=
  if name.scope = none then
    if ["xml", "xmlns", xmlNamespace, declarationNamespace].contains value then
      .error (.reservedScope value)
    else .ok bound
  else if name.localName = "xmlns" then .error (.reservedScope name.localName)
  else if name.localName = "xml" then
    if value = xmlNamespace then .ok bound else .error (.reservedScope name.localName)
  else if value = "" then .error (.unboundScope name.localName)
  else .ok (name.localName :: bound)

/-- The bound prefixes after the declarations among the attributes. -/
def declareScopes (bound : List String) :
    List (QName × String) → Except Malformed (List String)
  | [] => .ok bound
  | (name, value) :: rest => do
    let bound ← if name.declaresScope then declareScope bound name value else pure bound
    declareScopes bound rest

def requireScope (bound : List String) : Option String → Except Malformed Unit
  | none => .ok ()
  | some scope => if bound.contains scope then .ok () else .error (.unboundScope scope)

/-- Adds an attribute, which takes the place of an earlier one with its name. -/
def putAttribute (attributes : List (String × String)) (name value : String) :
    List (String × String) :=
  attributes.filter (·.1 != name) ++ [(name, value)]

/-- The attributes by their local names, without namespace declarations; `seen` holds the names
of the attributes before. -/
def localAttributes (bound : List String) (seen : List QName)
    (found : List (String × String)) :
    List (QName × String) → Except Malformed (List (String × String))
  | [] => .ok found
  | (name, value) :: rest =>
    if name.declaresScope then localAttributes bound seen found rest
    else if seen.contains name then .error (.repeatedAttribute name.localName)
    else do
      requireScope ("xml" :: bound) name.scope
      localAttributes bound (name :: seen) (putAttribute found name.localName value) rest

/-- Refuses the prefixes that no element may have. -/
def refuseReserved (name : QName) : Except Malformed Unit :=
  match name.scope with
  | some scope =>
    if scope = "xml" || scope = "xmlns" then .error (.reservedScope scope) else .ok ()
  | none => .ok ()

end RobotWeb.Markup
