import RobotWeb.Markup.Search
import RobotWeb.Proofs.Text.Trim

/-!
# Searches in document order

Every search over a tree is the search over the list of its elements in document order.

* `withClass_eq`, `withName_eq` — gathering elements is filtering that list.
* `find?_eq`                  — looking for one is looking in that list.
* `mem_preorder`              — the list holds what lies within the tree, at any depth.
* `FirstOfClass`, `Holds`     — the first element of a class, and the text in it.
* `textOfClass?_of_cons`      — later elements of the class are not asked for a text.
* `Shows.holds`               — the text may stand between blank characters.
-/

namespace RobotWeb.Markup

mutual

/-- What is collected are the matching elements in preorder, the last one first, before what was
found so far. -/
theorem Element.collect_eq (p : Element → Bool) (found : List Element) :
    ∀ e : Element, e.collect p found = (e.preorder.filter p).reverse ++ found
  | ⟨name, attributes, children⟩ => by
    rw [Element.collect, Element.preorder]
    split
    · rename_i hp
      rw [Node.collectAll_eq p _ children, List.filter_cons_of_pos hp]
      simp
    · rename_i hp
      rw [Node.collectAll_eq p _ children, List.filter_cons_of_neg hp]

theorem Node.collectAll_eq (p : Element → Bool) (found : List Element) :
    ∀ nodes : List Node,
      Node.collectAll p found nodes = ((Node.preorderAll nodes).filter p).reverse ++ found
  | [] => rfl
  | .element child :: rest => by
    rw [Node.collectAll, Node.collectAll_eq p _ rest, Element.collect_eq p found child,
      Node.preorderAll, List.filter_append, List.reverse_append, List.append_assoc]
  | .text _ :: rest => Node.collectAll_eq p found rest
  | .comment _ :: rest => Node.collectAll_eq p found rest
  | .instruction _ _ :: rest => Node.collectAll_eq p found rest

end

mutual

/-- The search that stops early finds the first match in preorder. -/
theorem Element.find?_eq (p : Element → Bool) :
    ∀ e : Element, e.find? p = e.preorder.find? p
  | ⟨name, attributes, children⟩ => by
    rw [Element.find?, Element.preorder]
    split
    · rename_i hp
      rw [List.find?_cons_of_pos hp]
    · rename_i hp
      rw [List.find?_cons_of_neg hp, Node.findBelow?_eq p children]

theorem Node.findBelow?_eq (p : Element → Bool) :
    ∀ nodes : List Node, Node.findBelow? p nodes = (Node.preorderAll nodes).find? p
  | [] => rfl
  | .element child :: rest => by
    rw [Node.findBelow?, Element.find?_eq p child, Node.findBelow?_eq p rest, Node.preorderAll,
      List.find?_append]
    cases child.preorder.find? p <;> rfl
  | .text _ :: rest => Node.findBelow?_eq p rest
  | .comment _ :: rest => Node.findBelow?_eq p rest
  | .instruction _ _ :: rest => Node.findBelow?_eq p rest

end

-- ---------------------------------------------------------------------------
-- What lies within a tree
-- ---------------------------------------------------------------------------

/-- The element is the root of the tree or lies below it, at any depth. -/
inductive Element.Within : Element → Element → Prop where
  | root {e : Element} : Within e e
  | inside {e child root : Element} (child_mem : child ∈ root.childElements)
      (within : Within e child) : Within e root

mutual

/-- What is listed in preorder lies within the element. -/
theorem Element.within_of_mem_preorder {e : Element} :
    ∀ root : Element, e ∈ root.preorder → e.Within root
  | ⟨name, attributes, children⟩ => by
    intro he
    rw [Element.preorder, List.mem_cons] at he
    rcases he with rfl | he
    · exact .root
    · obtain ⟨child, hchild, hwithin⟩ := Node.within_of_mem_preorderAll children he
      exact .inside hchild hwithin

theorem Node.within_of_mem_preorderAll {e : Element} :
    ∀ nodes : List Node, e ∈ Node.preorderAll nodes →
      ∃ child ∈ nodes.filterMap Node.asElement?, e.Within child
  | [] => by simp [Node.preorderAll]
  | .element child :: rest => by
    intro he
    rw [Node.preorderAll, List.mem_append] at he
    rcases he with he | he
    · exact ⟨child, by simp [Node.asElement?], Element.within_of_mem_preorder child he⟩
    · obtain ⟨other, hother, hwithin⟩ := Node.within_of_mem_preorderAll rest he
      exact ⟨other, List.mem_cons_of_mem child hother, hwithin⟩
  | .text _ :: rest => Node.within_of_mem_preorderAll rest
  | .comment _ :: rest => Node.within_of_mem_preorderAll rest
  | .instruction _ _ :: rest => Node.within_of_mem_preorderAll rest

end

/-- The preorder lists what lies within an element, and nothing else. -/
theorem Element.mem_preorder {e root : Element} : e ∈ root.preorder ↔ e.Within root := by
  refine ⟨Element.within_of_mem_preorder root, fun hwithin => ?_⟩
  induction hwithin with
  | root =>
    rw [Element.preorder_eq]
    exact List.mem_cons_self
  | inside hchild _ ih =>
    rw [Element.preorder_eq, List.mem_cons, List.mem_flatMap]
    exact .inr ⟨_, hchild, ih⟩

namespace Element

/-- The elements of a class, in preorder. -/
theorem withClass_eq (root : Element) (className : String) :
    root.withClass className = root.preorder.filter (·.hasClass className) := by
  rw [withClass, collect_eq]
  simp

/-- The elements of a name, in preorder. -/
theorem withName_eq (root : Element) (name : String) :
    root.withName name = root.preorder.filter (·.name == name) := by
  rw [withName, collect_eq]
  simp

/-- What is found below an element that is not looked for itself is found below a child. -/
theorem find?_of_not {p : Element → Bool} {e : Element} (h : p e = false) :
    e.find? p = (e.childElements.flatMap preorder).find? p := by
  rw [find?_eq, preorder_eq, List.find?_cons_of_neg (by simp [h])]

-- ---------------------------------------------------------------------------
-- The first element of a class
-- ---------------------------------------------------------------------------

variable {root e : Element} {className text : String}

/-- The element has the class, and none that comes before it in document order does. -/
def FirstOfClass (root : Element) (className : String) (e : Element) : Prop :=
  ∃ before after, root.preorder = before ++ e :: after ∧ e.hasClass className = true ∧
    ∀ earlier ∈ before, earlier.hasClass className = false

/-- The first element of the class has a text, and this is it without the blank characters at its
ends. -/
def Holds (root : Element) (className text : String) : Prop :=
  ∃ e raw, root.FirstOfClass className e ∧ e.ownText? = some raw ∧ Text.trim raw = text

/-- The search for a class finds the first element of the class. -/
theorem find?_hasClass_eq_some :
    root.find? (·.hasClass className) = some e ↔ root.FirstOfClass className e := by
  rw [find?_eq, List.find?_eq_some_iff_append]
  constructor
  · rintro ⟨he, before, after, hpreorder, hbefore⟩
    exact ⟨before, after, hpreorder, he, fun earlier h => by simpa using hbefore earlier h⟩
  · rintro ⟨before, after, hpreorder, he, hbefore⟩
    exact ⟨he, before, after, hpreorder, fun earlier h => by simp [hbefore earlier h]⟩

/-- The first of all elements of the class is the one at which a search for one stops. -/
theorem head?_withClass (root : Element) (className : String) :
    (root.withClass className).head? = root.find? (·.hasClass className) := by
  rw [withClass_eq, List.head?_filter, find?_eq]

/-- The first one of all the elements of a class is the first element of the class. -/
theorem head?_withClass_eq_some :
    (root.withClass className).head? = some e ↔ root.FirstOfClass className e := by
  rw [head?_withClass, find?_hasClass_eq_some]

/-- The text of a class is the one that its first element holds. -/
theorem textOfClass?_eq_some :
    root.textOfClass? className = some text ↔ root.Holds className text := by
  rw [textOfClass?, Option.map_eq_some_iff]
  constructor
  · rintro ⟨raw, hraw, htrim⟩
    obtain ⟨e, he, hown⟩ := Option.bind_eq_some_iff.mp hraw
    exact ⟨e, raw, find?_hasClass_eq_some.mp he, hown, htrim⟩
  · rintro ⟨e, raw, he, hown, htrim⟩
    exact ⟨raw, Option.bind_eq_some_iff.mpr ⟨e, find?_hasClass_eq_some.mpr he, hown⟩, htrim⟩

/-- Without an element of the class there is no text. -/
theorem textOfClass?_of_nil (h : root.withClass className = []) :
    root.textOfClass? className = none := by
  rw [textOfClass?, ← head?_withClass, h]
  rfl

/-- Only the first element of the class counts. -/
theorem textOfClass?_of_cons {later : List Element} (h : root.withClass className = e :: later) :
    root.textOfClass? className = e.ownText?.map Text.trim := by
  rw [textOfClass?, ← head?_withClass, h]
  rfl

/-- An element has no text of its own if no text stands directly in it. -/
theorem ownText?_eq_none : e.ownText? = none ↔ ∀ content, Node.text content ∉ e.children := by
  have htexts : e.ownText? = none ↔ e.children.filterMap Node.asText? = [] := by
    rw [ownText?]
    split
    · rename_i hnil
      simp only [hnil]
    · rename_i hne
      exact ⟨nofun, fun hnil => (hne hnil).elim⟩
  rw [htexts, List.filterMap_eq_nil_iff]
  constructor
  · intro h content hmem
    exact Option.some_ne_none content (h _ hmem)
  · intro h node hmem
    cases node with
    | text content => exact absurd hmem (h content)
    | element child => rfl
    | comment content => rfl
    | instruction target data => rfl

/-- The first element of the class has this text, and nothing else than blank characters around
it. -/
def Shows (root : Element) (className text : String) : Prop :=
  ∃ e before after, root.FirstOfClass className e ∧
    e.ownText? = some (String.ofList before ++ text ++ String.ofList after) ∧
    (∀ c ∈ before, Text.isBlank c = true) ∧ ∀ c ∈ after, Text.isBlank c = true

/-- A text without blanks around it is held as it is shown. -/
theorem Shows.holds (h : root.Shows className text) (htrim : Text.trim text = text) :
    root.Holds className text := by
  obtain ⟨e, before, after, he, hown, hbefore, hafter⟩ := h
  exact ⟨e, _, he, hown, Text.trim_padded htrim hbefore hafter⟩

end Element

end RobotWeb.Markup
