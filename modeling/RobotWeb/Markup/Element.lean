import RobotWeb.Text.Blank

/-!
# Element trees

The tree of a markup document: elements with a name, attributes and child nodes. Names are local
names, and the attributes of an element read from a document have pairwise different names.
-/

namespace RobotWeb.Markup

mutual

/-- An element with its attributes and its child nodes in document order. -/
structure Element where
  name : String
  attributes : List (String × String)
  children : List Node

/-- A child of an element: an element, a run of character data, a comment or a processing
instruction. -/
inductive Node where
  | element (child : Element)
  | text (content : String)
  | comment (content : String)
  | instruction (target : String) (data : String)

end

instance : Inhabited Element := ⟨⟨"", [], []⟩⟩

/-- The element that the node is, if it is one. -/
def Node.asElement? : Node → Option Element
  | .element child => some child
  | _ => none

def Node.asText? : Node → Option String
  | .text content => some content
  | _ => none

namespace Element

/-- The value of the attribute with the given name. -/
def attribute? (e : Element) (name : String) : Option String :=
  (e.attributes.find? fun a => a.1 == name).map (·.2)

/-- The child elements, without text and other nodes. -/
def childElements (e : Element) : List Element :=
  e.children.filterMap Node.asElement?

/-- The texts directly inside the element, joined; `none` if there is no text node. -/
def ownText? (e : Element) : Option String :=
  match e.children.filterMap Node.asText? with
  | [] => none
  | texts => some (String.join texts)

/-- Whether the `class` attribute is exactly the given text. -/
def hasClass (e : Element) (className : String) : Bool :=
  e.attribute? "class" == some className

-- ---------------------------------------------------------------------------
-- Description for error contexts
-- ---------------------------------------------------------------------------

/-- Inserts an attribute before the first one with a greater name. -/
def insertByName (a : String × String) : List (String × String) → List (String × String)
  | [] => [a]
  | b :: bs =>
    if b.1 < a.1 || (b.1 == a.1 && b.2 < a.2) then b :: insertByName a bs else a :: b :: bs

/-- The attributes in ascending order of their names. -/
def sortByName (attributes : List (String × String)) : List (String × String) :=
  attributes.foldr insertByName []

/-- The start tag of the element with its attributes in order of their names; values are not
escaped. -/
def describe (e : Element) : String :=
  let attributes := (sortByName e.attributes).map fun (name, value) =>
    " " ++ name ++ "=\"" ++ value ++ "\""
  "<" ++ e.name ++ String.join attributes ++ ">"

end Element

end RobotWeb.Markup
