import RobotWeb.Page
import RobotWeb.Resource
import RobotWeb.Text.Split

/-!
# Event fragments

A list item of a frame that tells of one event. Its link names the resource that changed; the link
of an event-log message ends in a sequence number, and the resource is what stands before it.
-/

namespace RobotWeb

open Markup (Element)

/-- A list item with its class and the target of its link. -/
structure Fragment where
  element : Element
  className : String
  href : String

namespace Fragment

/-- The link of a list item: its first child link to itself, or else its first child link. -/
def link? (item : Element) : Option Element :=
  let links := item.childElements.filter (·.name == "a")
  (links.find? (·.attribute? "rel" == some "self")).or links.head?

/-- The fragment of a list item, which has to have a link with a target. -/
def ofElement (item : Element) : Except ProtocolError Fragment :=
  match link? item with
  | none => .error (.inContext .missingLink item.describe)
  | some link =>
    match link.attribute? "href" with
    | none => .error (.inContext (.missingField "href") link.describe)
    | some href => .ok ⟨item, (item.attribute? "class").getD "", href⟩

def title? (f : Fragment) : Option String :=
  f.element.attribute? "title"

def withoutQuery (href : String) : List Char :=
  href.toList.takeWhile (· != '?')

/-- The domain URI and the sequence number in the link of an event-log message; other fragments
and links without a slash have none. -/
def elogParts? (f : Fragment) : Option (String × String) :=
  if f.className = Resource.elogClass then
    (Text.splitLast? '/' (withoutQuery f.href)).map fun (domain, number) =>
      (String.ofList domain, String.ofList number)
  else none

/-- The URI of the resource that the fragment is addressed to. -/
def resourceUri (f : Fragment) : String :=
  match f.elogParts? with
  | some (domain, _) => domain
  | none => f.href

/-- The trimmed text of the first element of the class. -/
def text? (f : Fragment) (className : String) : Option String :=
  f.element.textOfClass? className

/-- The trimmed text of the first element of the class, which has to be present and not blank. -/
def requireText (f : Fragment) (className : String) : Except ProtocolError String :=
  Page.requireText f.element className

end Fragment

end RobotWeb
