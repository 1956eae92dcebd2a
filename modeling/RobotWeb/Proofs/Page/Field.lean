import RobotWeb.Page
import RobotWeb.Proofs.Markup.Order
import RobotWeb.Proofs.Markup.Search
import RobotWeb.Proofs.Text.Trim

/-!
# Fields of a page

A page may have several elements of the class that a field is looked up by. The first one in
document order is the field, whether or not it has a text: a later one never stands in for it.

* `textOfClass?_eq_some_iff_withClass` — the text of a field.
* `textOfClass?_eq_none`               — when a field has none.
* `requireText_eq_ok_iff_not_blank`    — the text of a mandatory field.
* `searches_follow_document_order`     — what all searches in a page have in common.
-/

namespace RobotWeb

open Markup (Element Node)

namespace Markup.Element

variable {root : Element} {className text : String}

/-- The text of a class is that of the first of all its elements, trimmed. -/
theorem textOfClass?_eq_some_iff_withClass :
    root.textOfClass? className = some text ↔
      ∃ e later raw, root.withClass className = e :: later ∧ e.ownText? = some raw ∧
        text = Text.trim raw := by
  constructor
  · intro htext
    cases hfound : root.withClass className with
    | nil =>
      rw [textOfClass?_of_nil hfound] at htext
      cases htext
    | cons e later =>
      rw [textOfClass?_of_cons hfound, Option.map_eq_some_iff] at htext
      obtain ⟨raw, hraw, rfl⟩ := htext
      exact ⟨e, later, raw, rfl, hraw, rfl⟩
  · rintro ⟨e, later, raw, hfound, hraw, rfl⟩
    rw [textOfClass?_of_cons hfound, hraw, Option.map_some]

/-- There is none if there is no such element or no text stands directly in the first one. -/
theorem textOfClass?_eq_none :
    root.textOfClass? className = none ↔
      root.withClass className = [] ∨
        ∃ e later, root.withClass className = e :: later ∧
          ∀ content, Node.text content ∉ e.children := by
  constructor
  · intro hnone
    cases hfound : root.withClass className with
    | nil => exact .inl rfl
    | cons e later =>
      rw [textOfClass?_of_cons hfound, Option.map_eq_none_iff, ownText?_eq_none] at hnone
      exact .inr ⟨e, later, rfl, hnone⟩
  · rintro (hfound | ⟨e, later, hfound, htextless⟩)
    · exact textOfClass?_of_nil hfound
    · rw [textOfClass?_of_cons hfound, ownText?_eq_none.mpr htextless, Option.map_none]

/-- What is read of a field has no blank characters at its ends. -/
theorem trim_of_textOfClass? (h : root.textOfClass? className = some text) :
    Text.trim text = text := by
  obtain ⟨e, later, raw, -, -, rfl⟩ := textOfClass?_eq_some_iff_withClass.mp h
  exact Text.trim_trim raw

end Markup.Element

namespace Page

variable {root : Element} {className text : String}

/-- The text of a field is trimmed, and it is not empty. -/
theorem requireText_eq_ok :
    requireText root className = .ok text ↔ root.Holds className text ∧ text ≠ "" := by
  have hfield : (root.textOfClass? className).filter (!·.isEmpty) = some text ↔
      root.Holds className text ∧ text ≠ "" := by
    rw [Option.filter_eq_some_iff, Element.textOfClass?_eq_some]
    simp
  rw [← hfield, requireText]
  split
  · rename_i found hfound
    rw [hfound, Except.ok.injEq, Option.some.injEq]
  · rename_i hnone
    simp [hnone]

/-- A field that is mandatory needs a text that is not blank. -/
theorem requireText_eq_ok_iff_not_blank :
    requireText root className = .ok text ↔
      root.textOfClass? className = some text ∧ Text.isBlankText text = false := by
  rw [requireText_eq_ok, ← Element.textOfClass?_eq_some]
  refine and_congr_right fun htext => ?_
  have hempty := Text.trim_eq_empty (s := text)
  rw [Element.trim_of_textOfClass? htext] at hempty
  rw [Ne, hempty, Bool.not_eq_true]

/-- **Searches follow document order.** A tree has one document order, in which each position of an
element has its turn once, the root first, an element before what is inside of it, and child nodes
from the first to the last; text and other nodes are not listed. To gather the elements of a class
or name is to take those out of this list, in its order. The text of a class is the trimmed text of
the first of them. There is none if the class has no element, or if its first element has no text
node, whatever the later ones have. A text that is mandatory is this text, refused only if there is
none or if it is blank; so it never is blank, and no blank character stands at either end. -/
theorem searches_follow_document_order (root : Element) (className name : String) :
    (∀ elements, root.InDocumentOrder elements ↔ elements = root.preorder) ∧
    root.withClass className = root.preorder.filter (·.hasClass className) ∧
    root.withName name = root.preorder.filter (·.name == name) ∧
    (∀ text, root.textOfClass? className = some text ↔
      ∃ e later raw, root.withClass className = e :: later ∧ e.ownText? = some raw ∧
        text = Text.trim raw) ∧
    (root.textOfClass? className = none ↔
      root.withClass className = [] ∨
        ∃ e later, root.withClass className = e :: later ∧
          ∀ content, Node.text content ∉ e.children) ∧
    (∀ text, requireText root className = .ok text ↔
      root.textOfClass? className = some text ∧ Text.isBlankText text = false) ∧
    ∀ text, requireText root className = .ok text →
      ∀ c, text.toList.head? = some c ∨ text.toList.getLast? = some c →
        Text.isBlank c = false := by
  refine ⟨fun elements => Element.inDocumentOrder_iff, root.withClass_eq className,
    root.withName_eq name, fun text => Element.textOfClass?_eq_some_iff_withClass,
    Element.textOfClass?_eq_none, fun text => requireText_eq_ok_iff_not_blank,
    fun text hok c hc => ?_⟩
  -- the text is trimmed already, so that trimming it again gives it back
  obtain ⟨htext, -⟩ := requireText_eq_ok_iff_not_blank.mp hok
  rw [← Element.trim_of_textOfClass? htext] at hc
  exact Text.not_isBlank_of_end hc

/-- A first element without a text of its own hides a later one of its class that has a text. -/
theorem empty_field_hides_later :
    let first : Element :=
      ⟨"span", [("class", "lvalue")], [.element ⟨"b", [], [.text "0"]⟩]⟩
    let later : Element := ⟨"span", [("class", "lvalue")], [.text " 1 "]⟩
    let root : Element := ⟨"li", [], [.text "DI1", .element first, .element later]⟩
    root.withClass "lvalue" = [first, later] ∧ root.textOfClass? "lvalue" = none ∧
      ∀ text, requireText root "lvalue" ≠ .ok text := by
  intro first later root
  obtain ⟨-, hclass, -, -, hnone, hrequired, -⟩ :=
    searches_follow_document_order root "lvalue" "span"
  have hfound : root.withClass "lvalue" = [first, later] := hclass.trans rfl
  have htextless : root.textOfClass? "lvalue" = none :=
    hnone.mpr (.inr ⟨first, [later], hfound, by simp [first]⟩)
  refine ⟨hfound, htextless, fun text hok => ?_⟩
  obtain ⟨htext, -⟩ := (hrequired text).mp hok
  rw [htextless] at htext
  cases htext

end Page

end RobotWeb
