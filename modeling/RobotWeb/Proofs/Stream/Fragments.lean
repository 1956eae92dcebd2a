import RobotWeb.Proofs.Markup.Search
import RobotWeb.Stream.ParsedFrame

/-!
# The fragments of a frame

The walk over a page finds the fragments of its list items in document order, and a frame is
accepted if every list item has one.

* `Walk.toList_eq`          — the walk skips nothing but what is no fragment.
* `checkItems_eq_ok`        — when a frame is accepted.
* `fragments_eq`            — the fragments of a page are those of its list items.
* `parse_of_page`           — a page is accepted or rejected as its list items are.
* `parse_of_items`          — a page of fragments is accepted.
-/

namespace RobotWeb.Stream

open Markup (Element)

/-- The fragment of an element, if it is a list item that has one. -/
def fragmentAt? (e : Element) : Option Fragment :=
  if e.name = itemName then (Fragment.ofElement e).toOption else none

namespace Walk

theorem next?_nil : (Walk.mk []).next? = none := by
  simp [next?]

/-- The walk stops at an element with a fragment and passes any other. -/
theorem next?_cons (e : Element) (rest : List Element) :
    (Walk.mk (e :: rest)).next? =
      match fragmentAt? e with
      | some f => some (f, below e rest)
      | none => (below e rest).next? := by
  rw [next?]
  by_cases hn : e.name = itemName
  · cases hf : Fragment.ofElement e <;> simp [fragmentAt?, hn, hf, Except.toOption]
  · simp [fragmentAt?, hn]

theorem toList_of_none {w : Walk} (h : w.next? = none) : w.toList = [] := by
  rw [toList]
  split <;> simp_all

/-- A walk lists the fragment that it finds next before those that it finds later. -/
theorem toList_of_some {w left : Walk} {f : Fragment} (h : w.next? = some (f, left)) :
    w.toList = f :: left.toList := by
  rw [toList]
  split <;> simp_all

/-- An element is visited before its children, and these before the rest. -/
theorem toList_cons (e : Element) (rest : List Element) :
    (Walk.mk (e :: rest)).toList = (fragmentAt? e).toList ++ (below e rest).toList := by
  have hnext := next?_cons e rest
  cases hf : fragmentAt? e with
  | some f =>
    rw [hf] at hnext
    exact toList_of_some hnext
  | none =>
    rw [hf] at hnext
    cases hbelow : (below e rest).next? with
    | none =>
      rw [toList_of_none (hnext.trans hbelow), toList_of_none hbelow]
      rfl
    | some found =>
      obtain ⟨f, left⟩ := found
      rw [toList_of_some (hnext.trans hbelow), toList_of_some hbelow]
      rfl

/-- Nothing is skipped but what is no fragment. -/
theorem toList_eq (w : Walk) : w.toList = w.remaining.filterMap fragmentAt? := by
  obtain ⟨stack⟩ := w
  -- by induction on how much remains, which every visited element makes less
  generalize hn : (Walk.mk stack).remaining.length = n
  induction n using Nat.strongRecOn generalizing stack with
  | ind n ih =>
    cases stack with
    | nil =>
      rw [toList_of_none next?_nil]
      rfl
    | cons e rest =>
      rw [remaining_below] at hn ⊢
      have hbelow := ih (below e rest).remaining.length
        (by rw [← hn, List.length_cons]; omega) (below e rest).stack rfl
      have hwalk : Walk.mk (below e rest).stack = below e rest := rfl
      rw [hwalk] at hbelow
      rw [toList_cons, List.filterMap_cons, hbelow]
      cases fragmentAt? e <;> rfl

end Walk

/-- A page is accepted if every list item has a fragment. -/
theorem checkItems_eq_ok {items : List Element} :
    checkItems items = .ok () ↔ ∀ item ∈ items, ∃ f, Fragment.ofElement item = .ok f := by
  induction items with
  | nil => simp [checkItems]
  | cons item rest ih =>
    cases hf : Fragment.ofElement item with
    | ok f => simp [checkItems, hf, ih]
    | error e => simp [checkItems, hf]

/-- The fragments of a page are those of its list items. -/
theorem fragments_eq (root : Element) (size : Nat) :
    (ParsedFrame.mk (some root) size).fragments =
      (root.withName itemName).filterMap fun item => (Fragment.ofElement item).toOption := by
  rw [ParsedFrame.fragments, Walk.toList_eq, Element.withName_eq, List.filterMap_filter]
  simp only [ParsedFrame.walk, Walk.remaining, Option.toList_some, List.flatMap_singleton,
    beq_iff_eq]
  rfl

/-- A page is accepted or rejected as its list items are. -/
theorem parse_of_page {content : String} {root : Element}
    (hcontent : Text.isBlankText content = false) (hpage : Page.parse content = .ok root) :
    ParsedFrame.parse content =
      (checkItems (root.withName itemName)).map fun _ =>
        ⟨some root, (root.withName itemName).length⟩ := by
  rw [ParsedFrame.parse, hcontent, hpage]
  simp only [Bool.false_eq_true, if_false, bind, Except.bind]
  cases checkItems (root.withName itemName) <;> rfl

/-- A page all of whose list items have a fragment is accepted. -/
theorem parse_of_items {content : String} {root : Element}
    (hcontent : Text.isBlankText content = false) (hpage : Page.parse content = .ok root)
    (hitems : ∀ item ∈ root.withName itemName, ∃ f, Fragment.ofElement item = .ok f) :
    ParsedFrame.parse content = .ok ⟨some root, (root.withName itemName).length⟩ := by
  rw [parse_of_page hcontent hpage, checkItems_eq_ok.mpr hitems]
  rfl

end RobotWeb.Stream
