import RobotWeb.Event.Fragment

/-!
# Parsed frames

A frame is accepted as a whole: its page has to be well formed and each of its list items has to
have a link. The fragments are then found by a walk over the page that keeps a stack of the
elements still to be visited, and this walk visits the elements in document order.
-/

namespace RobotWeb.Stream

open Markup (Element Node)

/-- The name of the elements that carry events. -/
def itemName : String := "li"

/-- A page all of whose list items are fragments; a blank frame has no page. -/
structure ParsedFrame where
  root? : Option Element
  size : Nat

/-- Checks that each list item is a fragment. The error is that of the first one that is not. -/
def checkItems : List Element → Except ProtocolError Unit
  | [] => .ok ()
  | item :: rest =>
    match Fragment.ofElement item with
    | .ok _ => checkItems rest
    | .error e => .error e

def ParsedFrame.parse (content : String) : Except ProtocolError ParsedFrame :=
  if Text.isBlankText content then .ok ⟨none, 0⟩
  else do
    let root ← Page.parse content
    let items := root.withName itemName
    checkItems items
    return ⟨some root, items.length⟩

def ParsedFrame.isEmpty (p : ParsedFrame) : Bool :=
  p.size == 0

-- ---------------------------------------------------------------------------
-- The walk over a page
-- ---------------------------------------------------------------------------

/-- The elements that are still to be visited, the next one first. -/
structure Walk where
  stack : List Element

namespace Walk

/-- The elements of the trees on the stack, in the order in which they are visited. -/
def remaining (w : Walk) : List Element :=
  w.stack.flatMap Element.preorder

/-- The walk after visiting `e` at the top of the stack, with its children before the rest. -/
def below (e : Element) (rest : List Element) : Walk :=
  ⟨e.childElements ++ rest⟩

/-- Visiting an element takes it from the front of what remains. -/
theorem remaining_below (e : Element) (rest : List Element) :
    (Walk.mk (e :: rest)).remaining = e :: (below e rest).remaining := by
  simp [remaining, below, Element.preorder_eq]

def next? (w : Walk) : Option (Fragment × Walk) :=
  match _h : w.stack with
  | [] => none
  | e :: rest =>
    if e.name = itemName then
      match Fragment.ofElement e with
      | .ok f => some (f, below e rest)
      | .error _ => next? (below e rest)
    else next? (below e rest)
termination_by w.remaining.length
decreasing_by
  all_goals
    have : w = ⟨e :: rest⟩ := by cases w; simp_all
    rw [this, remaining_below, List.length_cons]
    omega

/-- Every fragment that is found leaves less of the walk. -/
theorem length_remaining_of_next? {w left : Walk} {f : Fragment}
    (h : w.next? = some (f, left)) : left.remaining.length < w.remaining.length := by
  -- by the walk: an element that gives no fragment is passed, one that does ends the search
  fun_induction next? w with
  | case1 w hs => simp at h
  | case2 w e rest hs _ g hg =>
    simp only [Option.some.injEq, Prod.mk.injEq] at h
    obtain ⟨-, rfl⟩ := h
    obtain ⟨stack⟩ := w
    simp only at hs
    subst hs
    simp [remaining_below]
  | case3 w e rest hs _ _ _ ih =>
    have := ih h
    obtain ⟨stack⟩ := w
    simp only at hs
    subst hs
    rw [remaining_below, List.length_cons]
    omega
  | case4 w e rest hs _ ih =>
    have := ih h
    obtain ⟨stack⟩ := w
    simp only at hs
    subst hs
    rw [remaining_below, List.length_cons]
    omega

def toList (w : Walk) : List Fragment :=
  match _h : w.next? with
  | none => []
  | some (f, left) => f :: left.toList
termination_by w.remaining.length
decreasing_by exact length_remaining_of_next? (by assumption)

end Walk

def ParsedFrame.walk (p : ParsedFrame) : Walk :=
  ⟨p.root?.toList⟩

/-- The fragments of the frame in document order. -/
def ParsedFrame.fragments (p : ParsedFrame) : List Fragment :=
  p.walk.toList

end RobotWeb.Stream
