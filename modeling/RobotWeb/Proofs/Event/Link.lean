import RobotWeb.Event.Fragment

/-!
# Which link names the resource of a list item

A list item is addressed by one of its child links. An item without a child link has no fragment,
and neither has one whose link has no target; the error says which of the two it is, and of which
element.

* `Fragment.ChosenLink` — the link that counts: the first one to itself, or else the first one.
* `Fragment.Tells`      — what the fragment of a list item carries.
* `Fragment.Unaddressed` — why a list item has no fragment.
* `ofElement_eq_ok`, `ofElement_eq_error` — when there is a fragment, and when there is none.
-/

namespace RobotWeb

open Markup (Element)

namespace Fragment

/-- The child links of a list item in document order. -/
def links (item : Element) : List Element :=
  item.childElements.filter (·.name == "a")

/-- Whether a link says that it is one to itself. -/
def IsSelf (link : Element) : Prop :=
  link.attribute? "rel" = some "self"

/-- The link counts among those of the list item: it is the first one to itself, or there is none
to itself and it is the first of all. -/
inductive ChosenLink (item link : Element) : Prop where
  | self {before after : List Element} (links : links item = before ++ link :: after)
      (isSelf : IsSelf link) (first : ∀ other ∈ before, ¬ IsSelf other)
  | first {after : List Element} (links : links item = link :: after)
      (none : ∀ other ∈ link :: after, ¬ IsSelf other)

/-- The links of an item are its children that are anchors. -/
theorem mem_links {item link : Element} :
    link ∈ links item ↔ link ∈ item.childElements ∧ link.name = "a" := by
  simp [links]

theorem links_eq_nil {item : Element} :
    links item = [] ↔ ∀ child ∈ item.childElements, child.name ≠ "a" := by
  simp [links]

theorem link?_eq (item : Element) :
    link? item =
      ((links item).find? (·.attribute? "rel" == some "self")).or (links item).head? := rfl

theorem link?_eq_none {item : Element} : link? item = none ↔ links item = [] := by
  rw [link?_eq, Option.or_eq_none_iff, List.head?_eq_none_iff]
  exact ⟨And.right, fun h => ⟨by simp [h], h⟩⟩

/-- The link that is read is the one that the item chooses. -/
theorem link?_eq_some {item link : Element} : link? item = some link ↔ ChosenLink item link := by
  rw [link?_eq]
  constructor
  · intro h
    -- the first link to itself, or the first link if there is none
    cases hself : (links item).find? (·.attribute? "rel" == some "self") with
    | some found =>
      obtain ⟨hfound, before, after, hlinks, hbefore⟩ := List.find?_eq_some_iff_append.mp hself
      obtain rfl : found = link := by simpa [hself] using h
      exact .self hlinks (by simpa [IsSelf] using hfound)
        fun other hother => by simpa [IsSelf] using hbefore other hother
    | none =>
      rw [hself, Option.none_or, List.head?_eq_some_iff] at h
      obtain ⟨after, hlinks⟩ := h
      refine .first hlinks fun other hother => ?_
      have hother := List.find?_eq_none.mp hself other (hlinks ▸ hother)
      simpa [IsSelf] using hother
  · rintro (⟨hlinks, hself, hbefore⟩ | ⟨hlinks, hnone⟩)
    · have hfound : (links item).find? (·.attribute? "rel" == some "self") = some link := by
        refine List.find?_eq_some_iff_append.mpr ⟨by simpa [IsSelf] using hself, _, _, hlinks, ?_⟩
        intro other hother
        simpa [IsSelf] using hbefore other hother
      rw [hfound, Option.some_or]
    · have hfound : (links item).find? (·.attribute? "rel" == some "self") = none := by
        rw [List.find?_eq_none, hlinks]
        intro other hother
        simpa [IsSelf] using hnone other hother
      rw [hfound, Option.none_or, hlinks, List.head?_cons]

/-- The fragment tells of the list item: it carries its class, which may be missing, and the target
of the link that counts. -/
structure Tells (f : Fragment) (item : Element) : Prop where
  element : f.element = item
  className : f.className = (item.attribute? "class").getD ""
  target : ∃ link, ChosenLink item link ∧ link.attribute? "href" = some f.href

/-- Why a list item has no fragment. -/
inductive Unaddressed (item : Element) : ProtocolError → Prop where
  | noLink (none : ∀ child ∈ item.childElements, child.name ≠ "a") :
      Unaddressed item (.inContext .missingLink item.describe)
  | noTarget {link : Element} (chosen : ChosenLink item link)
      (none : link.attribute? "href" = none) :
      Unaddressed item (.inContext (.missingField "href") link.describe)

/-- What comes of a list item, by its links. -/
theorem ofElement_cases (item : Element) :
    (∃ f, ofElement item = .ok f ∧ f.Tells item) ∨
      ∃ e, ofElement item = .error e ∧ Unaddressed item e := by
  unfold ofElement
  cases hlink : link? item with
  | none =>
    exact .inr ⟨_, rfl, .noLink (links_eq_nil.mp (link?_eq_none.mp hlink))⟩
  | some link =>
    have hchosen := link?_eq_some.mp hlink
    cases hhref : link.attribute? "href" with
    | none => exact .inr ⟨_, by simp only [hhref], .noTarget hchosen hhref⟩
    | some href =>
      refine .inl ⟨⟨item, (item.attribute? "class").getD "", href⟩, by simp only [hhref], ?_⟩
      exact ⟨rfl, rfl, link, hchosen, hhref⟩

/-- An item chooses at most one link. -/
theorem ChosenLink.unique {item link other : Element} (h : ChosenLink item link)
    (h' : ChosenLink item other) : link = other :=
  Option.some.inj ((link?_eq_some.mpr h).symm.trans (link?_eq_some.mpr h'))

theorem ChosenLink.mem_links {item link : Element} (h : ChosenLink item link) :
    link ∈ links item := by
  cases h with
  | self hlinks => simp [hlinks]
  | first hlinks => simp [hlinks]

/-- An item with a link that counts has a child link. -/
theorem ChosenLink.not_none {item link : Element} (h : ChosenLink item link) :
    ¬ ∀ child ∈ item.childElements, child.name ≠ "a" := by
  obtain ⟨hmem, hname⟩ := Fragment.mem_links.mp h.mem_links
  exact fun hnone => hnone link hmem hname

/-- An item tells at most one fragment. -/
theorem Tells.unique {f g : Fragment} {item : Element} (h : f.Tells item) (h' : g.Tells item) :
    f = g := by
  obtain ⟨link, hchosen, hhref⟩ := h.target
  obtain ⟨other, hchosen', hhref'⟩ := h'.target
  obtain rfl := hchosen.unique hchosen'
  have helement := h.element.trans h'.element.symm
  have hclass := h.className.trans h'.className.symm
  have htarget := Option.some.inj (hhref.symm.trans hhref')
  cases f
  cases g
  simp_all

/-- A list item that has a fragment has no fault. -/
theorem Tells.not_unaddressed {f : Fragment} {item : Element} {e : ProtocolError}
    (h : f.Tells item) : ¬ Unaddressed item e := by
  obtain ⟨link, hchosen, hhref⟩ := h.target
  intro hfault
  cases hfault with
  | noLink hnone => exact hchosen.not_none hnone
  | noTarget hchosen' hnone =>
    obtain rfl := hchosen.unique hchosen'
    simp [hhref] at hnone

/-- An item lacks its address in at most one way. -/
theorem Unaddressed.unique {item : Element} {e e' : ProtocolError} (h : Unaddressed item e)
    (h' : Unaddressed item e') : e = e' := by
  cases h with
  | noLink hnone =>
    cases h' with
    | noLink => rfl
    | noTarget hchosen => exact absurd hnone hchosen.not_none
  | noTarget hchosen =>
    cases h' with
    | noLink hnone => exact absurd hnone hchosen.not_none
    | noTarget hchosen' => rw [hchosen.unique hchosen']

/-- The fragment that is read off an item is the one that the item tells. -/
theorem ofElement_eq_ok {item : Element} {f : Fragment} :
    ofElement item = .ok f ↔ f.Tells item := by
  rcases ofElement_cases item with ⟨g, hok, htells⟩ | ⟨e, herror, hfault⟩
  · rw [hok, Except.ok.injEq]
    exact ⟨fun h => h ▸ htells, fun h => htells.unique h⟩
  · rw [herror]
    exact ⟨nofun, fun h => absurd hfault h.not_unaddressed⟩

/-- An item has a fragment if it chooses a link with an address. -/
theorem exists_ofElement {item : Element} :
    (∃ f, ofElement item = .ok f) ↔
      ∃ link href, ChosenLink item link ∧ link.attribute? "href" = some href := by
  simp only [ofElement_eq_ok]
  constructor
  · rintro ⟨f, hf⟩
    obtain ⟨link, hchosen, hhref⟩ := hf.target
    exact ⟨link, f.href, hchosen, hhref⟩
  · rintro ⟨link, href, hchosen, hhref⟩
    exact ⟨⟨item, (item.attribute? "class").getD "", href⟩, rfl, rfl, link, hchosen, hhref⟩

/-- An item without an address fails in the way in which it lacks it. -/
theorem ofElement_eq_error {item : Element} {e : ProtocolError} :
    ofElement item = .error e ↔ Unaddressed item e := by
  rcases ofElement_cases item with ⟨g, hok, htells⟩ | ⟨e', herror, hfault⟩
  · rw [hok]
    exact ⟨nofun, fun h => absurd h htells.not_unaddressed⟩
  · rw [herror, Except.error.injEq]
    exact ⟨fun h => h ▸ hfault, fun h => hfault.unique h⟩

end Fragment

end RobotWeb
