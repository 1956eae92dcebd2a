import RobotWeb.Markup.Element

/-!
# Searching element trees

Searches look at the elements of a tree in document order: an element comes before its
descendants, and these come from left to right. `preorder` lists that order, `collect` gathers
the elements that satisfy a condition on the way, and `find?` stops at the first of them.
-/

namespace RobotWeb.Markup

mutual

/-- The element and all its descendants in document order. -/
def Element.preorder : Element → List Element
  | ⟨name, attributes, children⟩ => ⟨name, attributes, children⟩ :: Node.preorderAll children

/-- The elements below a list of nodes in document order. -/
def Node.preorderAll : List Node → List Element
  | [] => []
  | .element child :: rest => child.preorder ++ Node.preorderAll rest
  | .text _ :: rest => Node.preorderAll rest
  | .comment _ :: rest => Node.preorderAll rest
  | .instruction _ _ :: rest => Node.preorderAll rest

end

/-- The elements below a list of nodes are those of the trees of its elements. -/
theorem Node.preorderAll_eq (nodes : List Node) :
    Node.preorderAll nodes = (nodes.filterMap Node.asElement?).flatMap Element.preorder := by
  induction nodes with
  | nil => simp [Node.preorderAll]
  | cons node rest ih =>
    cases node <;> simp [Node.preorderAll, Node.asElement?, List.filterMap_cons, ih]

/-- An element comes before the trees of its children. -/
theorem Element.preorder_eq (e : Element) :
    e.preorder = e :: e.childElements.flatMap Element.preorder := by
  cases e with
  | mk name attributes children =>
    simp [Element.preorder, Element.childElements, Node.preorderAll_eq]

mutual

/-- The elements of the tree that satisfy `p`, the latest one first, before those found so far. -/
def Element.collect (p : Element → Bool) (found : List Element) : Element → List Element
  | ⟨name, attributes, children⟩ =>
    let found := if p ⟨name, attributes, children⟩ then ⟨name, attributes, children⟩ :: found
      else found
    Node.collectAll p found children

/-- The elements below the nodes that satisfy `p`, the latest one first, before those found so
far. -/
def Node.collectAll (p : Element → Bool) (found : List Element) : List Node → List Element
  | [] => found
  | .element child :: rest => Node.collectAll p (Element.collect p found child) rest
  | .text _ :: rest => Node.collectAll p found rest
  | .comment _ :: rest => Node.collectAll p found rest
  | .instruction _ _ :: rest => Node.collectAll p found rest

end

mutual

/-- The first element of the tree that satisfies `p`. -/
def Element.find? (p : Element → Bool) : Element → Option Element
  | ⟨name, attributes, children⟩ =>
    if p ⟨name, attributes, children⟩ then some ⟨name, attributes, children⟩
    else Node.findBelow? p children

/-- The first element below the nodes that satisfies `p`. -/
def Node.findBelow? (p : Element → Bool) : List Node → Option Element
  | [] => none
  | .element child :: rest =>
    match Element.find? p child with
    | some found => some found
    | none => Node.findBelow? p rest
  | .text _ :: rest => Node.findBelow? p rest
  | .comment _ :: rest => Node.findBelow? p rest
  | .instruction _ _ :: rest => Node.findBelow? p rest

end

namespace Element

/-- The elements of the tree whose class is exactly `className`. -/
def withClass (root : Element) (className : String) : List Element :=
  (Element.collect (·.hasClass className) [] root).reverse

/-- The elements of the tree with the given name. -/
def withName (root : Element) (name : String) : List Element :=
  (Element.collect (·.name == name) [] root).reverse

/-- The trimmed text of the first element of the class, if that element has a text. -/
def textOfClass? (root : Element) (className : String) : Option String :=
  ((Element.find? (·.hasClass className) root).bind ownText?).map Text.trim

end Element

end RobotWeb.Markup
