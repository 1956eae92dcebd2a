import Mathlib.Data.List.Forall2
import RobotWeb.Proofs.Event.Link
import RobotWeb.Proofs.Stream.Fragments

/-!
# Which frames are accepted

A frame is accepted if it is blank, or if it is a page each of whose list items, at any depth, is
addressed by a link with a target. What is accepted shows one fragment for each list item, and what
is rejected is rejected for the first list item that is not addressed. The check goes over the page
by a search and the fragments are found by a walk, and both meet the same items in the same order.

* `Walk.Yields`           — what a caller gets who asks a walk until there is nothing more.
* `listItems`             — the list items of a page in document order.
* `FirstUnaddressed`      — the first of them without an address, and what is wrong with it.
* `ParsedFrame.Shows`     — what an accepted frame shows.
* `checkItems_eq_error`   — the check stops at the first item without an address.
* `frame_judged_by_items` — acceptance, what is shown, and rejection.
-/

namespace RobotWeb.Stream

open Markup (Element)

-- ---------------------------------------------------------------------------
-- Asking a walk
-- ---------------------------------------------------------------------------

/-- Who asks the walk for the next fragment until there is none gets these. -/
inductive Walk.Yields : Walk → List Fragment → Prop where
  | done {w : Walk} (next : w.next? = none) : Yields w []
  | found {w left : Walk} {f : Fragment} {rest : List Fragment}
      (next : w.next? = some (f, left)) (later : Yields left rest) : Yields w (f :: rest)

/-- Asking a walk until it has no more gives the fragments that it lists. -/
theorem Walk.yields_toList (w : Walk) : w.Yields w.toList := by
  fun_induction Walk.toList w with
  | case1 w hnext => exact .done hnext
  | case2 w f left hnext ih => exact .found hnext ih

/-- A walk always ends, and always with the same fragments. -/
theorem Walk.yields_iff {w : Walk} {found : List Fragment} :
    w.Yields found ↔ found = w.toList := by
  refine ⟨fun h => ?_, fun h => h ▸ w.yields_toList⟩
  induction h with
  | done hnext => rw [toList_of_none hnext]
  | found hnext _ ih => rw [toList_of_some hnext, ih]

-- ---------------------------------------------------------------------------
-- List items
-- ---------------------------------------------------------------------------

/-- The list items of a page in document order. -/
def listItems (root : Element) : List Element :=
  root.preorder.filter (·.name == itemName)

theorem withName_itemName (root : Element) : root.withName itemName = listItems root :=
  Element.withName_eq root itemName

/-- The list items of a page are what lies within it under their name. -/
theorem mem_listItems {root item : Element} :
    item ∈ listItems root ↔ item.Within root ∧ item.name = itemName := by
  rw [listItems, List.mem_filter, Element.mem_preorder, beq_iff_eq]

/-- The first of the list items that has no address, with what is wrong with it. -/
def FirstUnaddressed (items : List Element) (e : ProtocolError) : Prop :=
  ∃ before item after, items = before ++ item :: after ∧
    (∀ earlier ∈ before, ∃ f : Fragment, f.Tells earlier) ∧ Fragment.Unaddressed item e

/-- An item that tells a fragment is passed over when the first one is looked for that does not. -/
theorem FirstUnaddressed.cons {items : List Element} {e : ProtocolError} {item : Element}
    {f : Fragment} (hf : f.Tells item) :
    FirstUnaddressed (item :: items) e ↔ FirstUnaddressed items e := by
  constructor
  · rintro ⟨before, fault, after, hitems, hbefore, hfault⟩
    cases before with
    | nil =>
      obtain ⟨rfl, -⟩ := List.cons.inj hitems
      exact absurd hfault hf.not_unaddressed
    | cons first before =>
      obtain ⟨-, rfl⟩ := List.cons.inj hitems
      exact ⟨before, fault, after, rfl, fun earlier h => hbefore earlier (by simp [h]), hfault⟩
  · rintro ⟨before, fault, after, rfl, hbefore, hfault⟩
    refine ⟨item :: before, fault, after, rfl, fun earlier h => ?_, hfault⟩
    rcases List.mem_cons.mp h with rfl | h
    · exact ⟨f, hf⟩
    · exact hbefore earlier h

/-- The check tells of the first list item without an address, whatever stands behind it. -/
theorem checkItems_eq_error {items : List Element} {e : ProtocolError} :
    checkItems items = .error e ↔ FirstUnaddressed items e := by
  -- over the items: one with an address moves the first fault to the rest
  induction items with
  | nil => simp [checkItems, FirstUnaddressed]
  | cons item rest ih =>
    cases hitem : Fragment.ofElement item with
    | ok f =>
      rw [checkItems, hitem, FirstUnaddressed.cons (Fragment.ofElement_eq_ok.mp hitem)]
      exact ih
    | error cause =>
      have hcause := Fragment.ofElement_eq_error.mp hitem
      rw [checkItems, hitem, Except.error.injEq]
      constructor
      · rintro rfl
        exact ⟨[], item, rest, rfl, by simp, hcause⟩
      · rintro ⟨before, fault, after, hitems, hbefore, hfault⟩
        cases before with
        | nil =>
          obtain ⟨rfl, -⟩ := List.cons.inj hitems
          exact hcause.unique hfault
        | cons first before =>
          obtain ⟨rfl, -⟩ := List.cons.inj hitems
          obtain ⟨f, hf⟩ := hbefore item (by simp)
          exact absurd hcause hf.not_unaddressed

-- ---------------------------------------------------------------------------
-- What a frame shows
-- ---------------------------------------------------------------------------

/-- The frame shows the list items: it has one fragment for each, in their order, with its class
and the target of the link that counts. Its size is their number, and each walk over it, the first
one or a later one, finds these fragments and then ends. -/
structure ParsedFrame.Shows (p : ParsedFrame) (items : List Element) : Prop where
  fragments : List.Forall₂ Fragment.Tells p.fragments items
  size : p.size = p.fragments.length
  isEmpty : p.isEmpty = true ↔ p.fragments = []
  walks : ∀ found, p.walk.Yields found ↔ found = p.fragments

/-- The fragments of addressed list items are found one by one. -/
theorem forall₂_tells {items : List Element}
    (h : ∀ item ∈ items, ∃ f, Fragment.ofElement item = .ok f) :
    List.Forall₂ Fragment.Tells
      (items.filterMap fun item => (Fragment.ofElement item).toOption) items := by
  induction items with
  | nil => exact .nil
  | cons item rest ih =>
    obtain ⟨f, hf⟩ := h item (by simp)
    have hrest := ih fun later hlater => h later (by simp [hlater])
    rw [List.filterMap_cons, hf]
    exact .cons (Fragment.ofElement_eq_ok.mp hf) hrest

/-- A frame shows the items that its fragments are told by, one for one. -/
theorem ParsedFrame.shows_of_fragments {p : ParsedFrame} {items : List Element}
    (hfragments : List.Forall₂ Fragment.Tells p.fragments items) (hsize : p.size = items.length) :
    p.Shows items := by
  have hlength : p.size = p.fragments.length := by rw [hsize, hfragments.length_eq]
  refine ⟨hfragments, hlength, ?_, fun found => Walk.yields_iff⟩
  rw [isEmpty, hlength, beq_iff_eq, List.length_eq_zero_iff]

theorem ParsedFrame.shows_blank : (ParsedFrame.mk none 0).Shows [] := by
  refine shows_of_fragments ?_ rfl
  have hnone : (ParsedFrame.mk none 0).fragments = [] := Walk.toList_of_none Walk.next?_nil
  rw [hnone]
  exact .nil

/-- A page all of whose items tell fragments is shown as it is. -/
theorem ParsedFrame.shows_page {root : Element}
    (h : ∀ item ∈ listItems root, ∃ f, Fragment.ofElement item = .ok f) :
    (ParsedFrame.mk (some root) (listItems root).length).Shows (listItems root) := by
  refine shows_of_fragments ?_ rfl
  rw [fragments_eq, withName_itemName]
  exact forall₂_tells h

-- ---------------------------------------------------------------------------
-- Acceptance and rejection
-- ---------------------------------------------------------------------------

/-- A blank frame is accepted and has no items. -/
theorem parse_of_blank {content : String} (h : Text.isBlankText content = true) :
    ParsedFrame.parse content = .ok ⟨none, 0⟩ := by
  rw [ParsedFrame.parse, if_pos h]

/-- A frame that is no page is rejected for the reason why it is none. -/
theorem parse_of_malformed {content : String} {e : ProtocolError}
    (hcontent : Text.isBlankText content = false) (hpage : Page.parse content = .error e) :
    ParsedFrame.parse content = .error e := by
  rw [ParsedFrame.parse, hcontent, hpage]
  rfl

/-- **A frame is judged by its list items.** It is accepted if it is blank, or if it is a page
every list item of which, at any depth, has a link that counts and a target of it. An accepted frame
shows nothing, or the list items of its page. A frame is rejected for what is wrong with its markup,
or for what is wrong with the first list item that has no address, whatever the others are. -/
theorem frame_judged_by_items (content : String) :
    ((∃ p, ParsedFrame.parse content = .ok p) ↔
      (∀ c ∈ content.toList, Text.isBlank c = true) ∨
        ∃ root, Page.parse content = .ok root ∧
          ∀ item : Element, item.Within root → item.name = itemName →
            ∃ link href, Fragment.ChosenLink item link ∧ link.attribute? "href" = some href) ∧
    (∀ p, ParsedFrame.parse content = .ok p →
      (Text.isBlankText content = true ∧ p.Shows []) ∨
        ∃ root, Page.parse content = .ok root ∧ p.Shows (listItems root)) ∧
    ∀ e, ParsedFrame.parse content = .error e ↔
      Text.isBlankText content = false ∧
        (Page.parse content = .error e ∨
          ∃ root, Page.parse content = .ok root ∧ FirstUnaddressed (listItems root) e) := by
  have hblank :
      (∀ c ∈ content.toList, Text.isBlank c = true) ↔ Text.isBlankText content = true := by
    rw [Text.isBlankText, List.all_eq_true]
  rw [hblank]
  cases hcontent : Text.isBlankText content with
  | true =>
    simp only [parse_of_blank hcontent]
    refine ⟨by simp, ?_, by simp⟩
    rintro p hp
    obtain rfl := Except.ok.inj hp
    exact .inl ⟨trivial, ParsedFrame.shows_blank⟩
  | false =>
    cases hpage : Page.parse content with
    | error cause =>
      simp only [parse_of_malformed hcontent hpage]
      exact ⟨by simp, nofun, by simp⟩
    | ok root =>
      -- the check runs over the items that the tree has, at any depth
      have haddressed : (∀ item : Element, item.Within root → item.name = itemName →
          ∃ link href, Fragment.ChosenLink item link ∧ link.attribute? "href" = some href) ↔
          ∀ item ∈ listItems root, ∃ f, Fragment.ofElement item = .ok f := by
        simp only [mem_listItems, and_imp, Fragment.exists_ofElement]
      rw [parse_of_page hcontent hpage, withName_itemName]
      simp only [Except.ok.injEq, exists_eq_left', haddressed, ← checkItems_eq_error]
      cases hcheck : checkItems (listItems root) with
      | ok =>
        have hitems := checkItems_eq_ok.mp hcheck
        refine ⟨⟨fun _ => .inr hitems, fun _ => ⟨_, rfl⟩⟩, ?_, by simp [Except.map]⟩
        rintro p hp
        obtain rfl := Except.ok.inj hp
        exact .inr (ParsedFrame.shows_page hitems)
      | error e =>
        have hitems : ¬ ∀ item ∈ listItems root, ∃ f, Fragment.ofElement item = .ok f := by
          rw [← checkItems_eq_ok, hcheck]
          nofun
        exact ⟨⟨nofun, fun h => absurd (h.resolve_left (by simp)) hitems⟩, nofun,
          by simp [Except.map]⟩

end RobotWeb.Stream
