import Mathlib.Data.List.Sort
import RobotWeb.Markup.Search

/-!
# Positions of elements

An element stands at a position of its tree: the way down to it from the root, which goes into one
child node after the other. Equal elements may stand at different positions, so document order is
an order of positions: level by level, the position of an earlier child comes first, and every
position comes before the ones that are further down from it.

* `elementAt?`              — the element at a position.
* `InDocumentOrder`         — lists with the element of each position once, in this order.
* `entries`                 — the elements with their positions, gathered on one way through.
* `mem_entries`, `pairwise_entries` — each position is met once, and none before an earlier one.
* `inDocumentOrder_iff`     — there is one such list, the one that `preorder` lists.
-/

namespace RobotWeb.Markup

/-- The way from the root of a tree down to a node: for each level, the number of child nodes that
stand before the one that is gone into. Child nodes of every kind count. -/
abbrev Position := List Nat

/-- The element at a position, if each step of the way leads into an element. -/
def Element.elementAt? : Element → Position → Option Element
  | e, [] => some e
  | e, i :: way =>
    match e.children[i]? with
    | some (.element child) => child.elementAt? way
    | _ => none

/-- The pairs are the elements of the tree with their positions, each position once and the earlier
ones first. -/
structure Element.Lists (root : Element) (entries : List (Position × Element)) : Prop where
  ascending : entries.Pairwise fun earlier later => earlier.1 < later.1
  mem_iff (position : Position) (e : Element) :
    (position, e) ∈ entries ↔ root.elementAt? position = some e

/-- The list has the element of each position of the tree, in the order of the positions. -/
def Element.InDocumentOrder (root : Element) (elements : List Element) : Prop :=
  ∃ entries, root.Lists entries ∧ entries.map (·.2) = elements

-- ---------------------------------------------------------------------------
-- Elements with their positions
-- ---------------------------------------------------------------------------

mutual

/-- The elements of the tree with their positions, from the root on. -/
def Element.entries : Element → List (Position × Element)
  | ⟨name, attributes, children⟩ =>
    ([], ⟨name, attributes, children⟩) :: Node.entriesFrom 0 children

/-- The elements below nodes that stand side by side, the first of them behind `i` others. -/
def Node.entriesFrom (i : Nat) : List Node → List (Position × Element)
  | [] => []
  | .element child :: rest =>
    (child.entries.map fun entry => (i :: entry.1, entry.2)) ++ Node.entriesFrom (i + 1) rest
  | .text _ :: rest => Node.entriesFrom (i + 1) rest
  | .comment _ :: rest => Node.entriesFrom (i + 1) rest
  | .instruction _ _ :: rest => Node.entriesFrom (i + 1) rest

end

/-- The way leads to the element through one of the nodes, the first of which stands behind `i`
others. -/
def Node.Leads (i : Nat) (nodes : List Node) (position : Position) (e : Element) : Prop :=
  ∃ k way child, position = (i + k) :: way ∧ nodes[k]? = some (.element child) ∧
    child.elementAt? way = some e

variable {root e : Element} {node : Node} {rest : List Node} {position : Position} {i : Nat}

theorem Node.not_leads_nil : ¬ Node.Leads i [] position e := by
  rintro ⟨k, way, child, -, hchild, -⟩
  simp at hchild

/-- A way goes through the first node or through one behind it. -/
theorem Node.leads_cons :
    Node.Leads i (node :: rest) position e ↔
      (∃ way child, node = .element child ∧ position = i :: way ∧
        child.elementAt? way = some e) ∨
      Node.Leads (i + 1) rest position e := by
  constructor
  · rintro ⟨k, way, child, hposition, hchild, he⟩
    cases k with
    | zero => exact .inl ⟨way, child, by simpa using hchild, hposition, he⟩
    | succ k =>
      have hnumber : i + (k + 1) = i + 1 + k := by omega
      rw [hnumber] at hposition
      exact .inr ⟨k, way, child, hposition, by simpa using hchild, he⟩
  · rintro (⟨way, child, rfl, rfl, he⟩ | ⟨k, way, child, rfl, hchild, he⟩)
    · exact ⟨0, way, child, rfl, rfl, he⟩
    · have hnumber : i + 1 + k = i + (k + 1) := by omega
      exact ⟨k + 1, way, child, by rw [hnumber], by simpa using hchild, he⟩

/-- Behind a node that is no element, the ways are the ones there were. -/
theorem Node.leads_behind (h : ∀ child, node ≠ .element child) :
    Node.Leads (i + 1) rest position e ↔ Node.Leads i (node :: rest) position e := by
  rw [Node.leads_cons]
  refine ⟨.inr, fun hleads => ?_⟩
  rcases hleads with ⟨way, child, hnode, -⟩ | hleads
  · exact absurd hnode (h child)
  · exact hleads

/-- The element at a position is the root or what the position leads to below it. -/
theorem Element.elementAt?_eq_some :
    root.elementAt? position = some e ↔
      (position = [] ∧ e = root) ∨ Node.Leads 0 root.children position e := by
  -- the empty position is that of the root, which leads nowhere below it
  cases position with
  | nil =>
    have hroot : ¬ Node.Leads 0 root.children [] e := by
      rintro ⟨k, way, child, hposition, -⟩
      cases hposition
    simp [Element.elementAt?, hroot, eq_comm]
  | cons i way =>
    rw [Element.elementAt?]
    constructor
    · intro he
      split at he
      · rename_i child hchild
        exact .inr ⟨i, way, child, by rw [Nat.zero_add], hchild, he⟩
      · cases he
    · rintro (⟨hposition, -⟩ | ⟨k, way', child, hposition, hchild, he⟩)
      · cases hposition
      · obtain ⟨rfl, rfl⟩ := List.cons.inj hposition
        rw [Nat.zero_add, hchild]
        exact he

mutual

/-- The pairs are the elements of the tree with the positions where they stand. -/
theorem Element.mem_entries {position : Position} {e : Element} :
    ∀ root : Element, (position, e) ∈ root.entries ↔ root.elementAt? position = some e
  | ⟨name, attributes, children⟩ => by
    rw [Element.entries, List.mem_cons, Prod.mk.injEq, Node.mem_entriesFrom 0 children,
      Element.elementAt?_eq_some]

/-- The nodes from the i-th one on are listed with the positions that lead to them. -/
theorem Node.mem_entriesFrom {position : Position} {e : Element} (i : Nat) :
    ∀ nodes : List Node, (position, e) ∈ Node.entriesFrom i nodes ↔ Node.Leads i nodes position e
  | [] => by simp [Node.entriesFrom, Node.not_leads_nil]
  | .element child :: rest => by
    rw [Node.entriesFrom, List.mem_append, List.mem_map, Node.mem_entriesFrom (i + 1) rest,
      Node.leads_cons]
    refine or_congr ?_ Iff.rfl
    constructor
    · rintro ⟨⟨way, inner⟩, hmem, hentry⟩
      obtain ⟨rfl, rfl⟩ := Prod.mk.inj hentry
      exact ⟨way, child, rfl, rfl, (Element.mem_entries child).mp hmem⟩
    · rintro ⟨way, _, hnode, rfl, he⟩
      cases hnode
      exact ⟨(way, e), (Element.mem_entries child).mpr he, rfl⟩
  | .text _ :: rest => by
    rw [Node.entriesFrom, Node.mem_entriesFrom (i + 1) rest]
    exact Node.leads_behind nofun
  | .comment _ :: rest => by
    rw [Node.entriesFrom, Node.mem_entriesFrom (i + 1) rest]
    exact Node.leads_behind nofun
  | .instruction _ _ :: rest => by
    rw [Node.entriesFrom, Node.mem_entriesFrom (i + 1) rest]
    exact Node.leads_behind nofun

end

mutual

/-- Elements are listed in the order of their positions. -/
theorem Element.pairwise_entries :
    ∀ root : Element, root.entries.Pairwise fun earlier later => earlier.1 < later.1
  | ⟨name, attributes, children⟩ => by
    rw [Element.entries, List.pairwise_cons]
    refine ⟨?_, Node.pairwise_entriesFrom 0 children⟩
    rintro ⟨position, e⟩ hmem
    obtain ⟨k, way, child, rfl, -, -⟩ := (Node.mem_entriesFrom 0 children).mp hmem
    exact List.nil_lt_cons _ _

/-- The positions below an earlier node come before those below a later one. -/
theorem Node.pairwise_entriesFrom (i : Nat) :
    ∀ nodes : List Node,
      (Node.entriesFrom i nodes).Pairwise fun earlier later => earlier.1 < later.1
  | [] => List.Pairwise.nil
  | .element child :: rest => by
    rw [Node.entriesFrom, List.pairwise_append, List.pairwise_map]
    refine ⟨?_, Node.pairwise_entriesFrom (i + 1) rest, ?_⟩
    · refine (Element.pairwise_entries child).imp fun hlt => ?_
      exact List.cons_lt_cons_iff.mpr (.inr ⟨rfl, hlt⟩)
    · rintro entry hentry ⟨position, e⟩ hmem
      obtain ⟨inner, -, rfl⟩ := List.mem_map.mp hentry
      obtain ⟨k, way, _, rfl, -, -⟩ := (Node.mem_entriesFrom (i + 1) rest).mp hmem
      exact List.cons_lt_cons_iff.mpr (.inl (by omega))
  | .text _ :: rest => Node.pairwise_entriesFrom (i + 1) rest
  | .comment _ :: rest => Node.pairwise_entriesFrom (i + 1) rest
  | .instruction _ _ :: rest => Node.pairwise_entriesFrom (i + 1) rest

end

mutual

/-- Without their positions, the elements are listed in preorder. -/
theorem Element.map_snd_entries : ∀ root : Element, root.entries.map (·.2) = root.preorder
  | ⟨name, attributes, children⟩ => by
    rw [Element.entries, List.map_cons, Node.map_snd_entriesFrom 0 children, Element.preorder]

theorem Node.map_snd_entriesFrom (i : Nat) :
    ∀ nodes : List Node, (Node.entriesFrom i nodes).map (·.2) = Node.preorderAll nodes
  | [] => rfl
  | .element child :: rest => by
    rw [Node.entriesFrom, List.map_append, List.map_map, Node.map_snd_entriesFrom (i + 1) rest,
      Node.preorderAll, ← Element.map_snd_entries child]
    rfl
  | .text _ :: rest => Node.map_snd_entriesFrom (i + 1) rest
  | .comment _ :: rest => Node.map_snd_entriesFrom (i + 1) rest
  | .instruction _ _ :: rest => Node.map_snd_entriesFrom (i + 1) rest

end

-- ---------------------------------------------------------------------------
-- The order
-- ---------------------------------------------------------------------------

namespace Element

/-- So the entries list every element of the tree at its position, in document order. -/
theorem lists_entries (root : Element) : root.Lists root.entries :=
  ⟨root.pairwise_entries, fun _ _ => mem_entries root⟩

/-- What stands where, and which position comes first, leaves no choice. -/
theorem Lists.unique {entries others : List (Position × Element)} (h : root.Lists entries)
    (h' : root.Lists others) : entries = others := by
  have hirrefl : Std.Irrefl fun earlier later : Position × Element => earlier.1 < later.1 :=
    ⟨fun entry => List.lt_irrefl entry.1⟩
  have hantisymm : Std.Antisymm fun earlier later : Position × Element => earlier.1 < later.1 :=
    ⟨fun earlier later hlt hgt => absurd hgt (List.lt_asymm hlt)⟩
  refine h.ascending.eq_of_mem_iff h'.ascending ?_
  rintro ⟨position, e⟩
  rw [h.mem_iff, h'.mem_iff]

/-- The elements of a tree have one document order. -/
theorem inDocumentOrder_iff {elements : List Element} :
    root.InDocumentOrder elements ↔ elements = root.preorder := by
  constructor
  · rintro ⟨entries, hlists, rfl⟩
    rw [hlists.unique root.lists_entries, root.map_snd_entries]
  · rintro rfl
    exact ⟨root.entries, root.lists_entries, root.map_snd_entries⟩

-- a text is no entry, but it counts in the positions behind it
example : (Element.mk "p" [] [.element ⟨"b", [], [.element ⟨"i", [], []⟩]⟩, .text ", ",
    .element ⟨"b", [], []⟩]).entries.map (·.1) = [[], [0], [0, 0], [2]] := rfl

end Element

end RobotWeb.Markup
