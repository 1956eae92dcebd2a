import Mathlib.Data.List.TakeWhile
import RobotWeb.Event.Decode
import RobotWeb.Proofs.Markup.Search
import RobotWeb.Proofs.Resource.Uri

/-!
# How the controller writes events

A list item renders an event if it has the class of the event's resource, one link to itself, and
the value of the event in the field of its kind. Anything else may stand around these, as long as
it cannot be taken for a list item or for the field. Such an item is read back as the event.

* `Event.Renders`         — the list items that render an event.
* `Renders.ofElement`     — the fragment of such an item.
* `resourceUri_fragment`  — it is addressed to the resource of the event.
* `Renders.decode`        — it is decoded as the event.
-/

namespace RobotWeb

open Markup (Element Node)

-- ---------------------------------------------------------------------------
-- The parts of an event
-- ---------------------------------------------------------------------------

namespace Event

def resource : Event → Resource
  | ioSignal signal _ => .ioSignal signal
  | rapidVariable v _ => .rapidVariable v
  | elog domain _ _ => .elogDomain domain
  | executionState _ => .executionState
  | controllerState _ => .controllerState

/-- The target of the link: the URI of the resource, with the sequence number of a message. -/
def target : Event → String
  | elog domain sequenceNumber _ =>
    (Resource.elogDomain domain).uri ++ "/" ++ toString sequenceNumber.toNat
  | e => e.resource.uri

/-- The class of the element that holds the value; a message has none. -/
def fieldClass? : Event → Option String
  | ioSignal _ _ => some "lvalue"
  | rapidVariable _ _ => some "value"
  | elog _ _ _ => none
  | executionState _ => some "ctrlexecstate"
  | controllerState _ => some "ctrlstate"

def fieldText? : Event → Option String
  | ioSignal _ value => some value
  | rapidVariable _ value => value
  | elog _ _ _ => none
  | executionState state => some state.wireName
  | controllerState state => some state.wireName

def title? : Event → Option String
  | elog _ _ payload => some payload
  | _ => none

/-- The value is a text that a trim leaves as it is, and not the empty one. -/
def Trimmed (e : Event) : Prop :=
  match e with
  | ioSignal _ value | rapidVariable _ (some value) => value ≠ "" ∧ Text.trim value = value
  | _ => True

/-- The wire names of states are trimmed as well. -/
theorem Trimmed.fieldText {e : Event} (h : e.Trimmed) {text : String}
    (htext : e.fieldText? = some text) : text ≠ "" ∧ Text.trim text = text := by
  cases e with
  | ioSignal signal value =>
    obtain rfl : value = text := by simpa [fieldText?] using htext
    exact h
  | rapidVariable v value =>
    obtain rfl : value = some text := htext
    exact h
  | elog => cases htext
  | executionState state =>
    obtain rfl : state.wireName = text := by simpa [fieldText?] using htext
    cases state <;> decide
  | controllerState state =>
    obtain rfl : state.wireName = text := by simpa [fieldText?] using htext
    cases state <;> decide

end Event

-- ---------------------------------------------------------------------------
-- Rendering
-- ---------------------------------------------------------------------------

/-- Whether an element is a link of a list item to itself. -/
def isSelfLink (e : Element) : Bool :=
  e.name == "a" && e.attribute? "rel" == some "self"

/-- The list item renders the event. -/
structure Event.Renders (e : Event) (item : Element) : Prop where
  name : item.name = "li"
  className : item.attribute? "class" = some e.resource.eventClass
  title : ∀ title, e.title? = some title → item.attribute? "title" = some title
  /-- One child is a link to itself, and it names the resource. -/
  link : ∃ link, item.childElements.filter isSelfLink = [link] ∧
    link.attribute? "href" = some e.target
  /-- One child is the field with the value; there is none without a value. -/
  field : ∀ className, e.fieldClass? = some className →
    match e.fieldText? with
    | some text => ∃ field, item.childElements.filter (·.hasClass className) = [field] ∧
        field.ownText? = some text
    | none => item.childElements.filter (·.hasClass className) = []
  /-- No list item stands inside. -/
  flat : ∀ child ∈ item.childElements, ∀ inner ∈ child.preorder, inner.name ≠ "li"
  /-- Nothing with the class of the field stands inside the other children. -/
  other : ∀ className, e.fieldClass? = some className → ∀ child ∈ item.childElements,
    child.hasClass className = false → ∀ inner ∈ child.preorder, inner.hasClass className = false

namespace Event

def fields (e : Event) : List Element :=
  match e.fieldClass?, e.fieldText? with
  | some className, some text => [⟨"span", [("class", className)], [.text text]⟩]
  | _, _ => []

def selfLink (e : Event) : Element :=
  ⟨"a", [("href", e.target), ("rel", "self")], []⟩

/-- The shortest list item that renders the event. -/
def item (e : Event) : Element :=
  ⟨"li", ("class", e.resource.eventClass) :: e.title?.toList.map (("title", ·)),
    (e.selfLink :: e.fields).map .element⟩

@[simp] theorem childElements_item (e : Event) :
    e.item.childElements = e.selfLink :: e.fields := by
  simp [item, Element.childElements, Function.comp_def, Node.asElement?]

/-- Every field is a span with one class and one text. -/
theorem mem_fields {e : Event} {field : Element} (h : field ∈ e.fields) :
    ∃ className text, field = ⟨"span", [("class", className)], [.text text]⟩ := by
  unfold fields at h
  split at h
  · exact ⟨_, _, List.mem_singleton.mp h⟩
  · cases h

/-- The children of such an item have no elements inside. -/
theorem preorder_of_mem_item {e : Event} {child : Element} (h : child ∈ e.item.childElements) :
    child.preorder = [child] := by
  rw [childElements_item, List.mem_cons] at h
  rcases h with rfl | hfield
  · simp [selfLink, Element.preorder, Node.preorderAll]
  · obtain ⟨className, text, rfl⟩ := mem_fields hfield
    simp [Element.preorder, Node.preorderAll]

/-- The item that is written for an event renders it. -/
theorem renders_item (e : Event) : e.Renders e.item := by
  refine ⟨rfl, rfl, fun title htitle => ?_, ⟨e.selfLink, ?_, rfl⟩, fun className hclass => ?_,
    fun child hchild inner hinner => ?_, fun className _ child hchild hno inner hinner => ?_⟩
  · simp [item, htitle, Element.attribute?]
  -- of the children only the first is a link
  · have hlink : isSelfLink e.selfLink = true := rfl
    have hnone : e.fields.filter isSelfLink = [] := by
      refine List.filter_eq_nil_iff.mpr fun field hfield => ?_
      obtain ⟨className, text, rfl⟩ := mem_fields hfield
      simp [isSelfLink]
    rw [childElements_item, List.filter_cons_of_pos hlink, hnone]
  · have hno : e.selfLink.hasClass className = false := by
      simp [selfLink, Element.hasClass, Element.attribute?]
    rw [childElements_item, List.filter_cons_of_neg (by simp [hno]), fields, hclass]
    cases e.fieldText? with
    | none => rfl
    | some text =>
      exact ⟨_, List.filter_cons_of_pos (by simp [Element.hasClass, Element.attribute?]),
        by simp [Element.ownText?, Node.asText?]⟩
  · rw [preorder_of_mem_item hchild, List.mem_singleton] at hinner
    subst hinner
    rw [childElements_item, List.mem_cons] at hchild
    rcases hchild with rfl | hfield
    · simp [selfLink]
    · obtain ⟨className, text, rfl⟩ := mem_fields hfield
      simp
  · rw [preorder_of_mem_item hchild, List.mem_singleton] at hinner
    rw [hinner, hno]

end Event

-- ---------------------------------------------------------------------------
-- Reading a rendering
-- ---------------------------------------------------------------------------

/-- If elements only have the class inside where they have it themselves, the first one that has it
in document order is the first one of them. -/
theorem find?_flatMap_preorder {p : Element → Bool} {elements : List Element}
    (h : ∀ e ∈ elements, p e = false → ∀ inner ∈ e.preorder, p inner = false) :
    (elements.flatMap Element.preorder).find? p = (elements.filter p).head? := by
  induction elements with
  | nil => rfl
  | cons e rest ih =>
    have hrest := ih fun other hother => h other (List.mem_cons_of_mem _ hother)
    rw [List.flatMap_cons, List.find?_append]
    cases hp : p e with
    | true => rw [Element.preorder_eq, List.find?_cons_of_pos hp, List.filter_cons_of_pos hp]; rfl
    | false =>
      have hinside : e.preorder.find? p = none :=
        List.find?_eq_none.mpr fun inner hinner => by
          simp [h e List.mem_cons_self hp inner hinner]
      rw [hinside, List.filter_cons_of_neg (by simp [hp]), ← hrest]
      rfl

/-- The link of a list item with one link to itself is that one. -/
theorem link?_of_selfLink {item link : Element}
    (h : item.childElements.filter isSelfLink = [link]) : Fragment.link? item = some link := by
  have hfind : (item.childElements.filter (·.name == "a")).find?
      (·.attribute? "rel" == some "self") = some link := by
    rw [← List.head?_filter, List.filter_filter]
    have hsame : (fun e : Element => (e.attribute? "rel" == some "self") && (e.name == "a")) =
        isSelfLink := funext fun e => Bool.and_comm _ _
    rw [hsame, h]
    rfl
  simp [Fragment.link?, hfind]

namespace Event

def fragment (e : Event) (item : Element) : Fragment :=
  ⟨item, e.resource.eventClass, e.target⟩

variable {e : Event} {item : Element}

/-- The class of a field is that of no list item. -/
theorem fieldClass_ne_eventClass {className : String} (h : e.fieldClass? = some className) :
    e.resource.eventClass ≠ className := by
  cases e <;> simp [fieldClass?] at h <;> subst h <;> simp [resource, Resource.eventClass]

/-- The fragment of an item is that of the event that it renders, whatever else stands in it. -/
theorem Renders.ofElement (h : e.Renders item) :
    Fragment.ofElement item = .ok (e.fragment item) := by
  obtain ⟨link, hlink, hhref⟩ := h.link
  simp [Fragment.ofElement, link?_of_selfLink hlink, hhref, h.className, fragment]

/-- The field of the event is found, with its text. -/
theorem Renders.text?_fieldClass (h : e.Renders item) (htrim : e.Trimmed) {className : String}
    (hclass : e.fieldClass? = some className) :
    (e.fragment item).text? className = e.fieldText? := by
  have hitem : item.hasClass className = false := by
    simp [Element.hasClass, h.className, fieldClass_ne_eventClass hclass]
  have hfield := h.field className hclass
  rw [fragment, Fragment.text?, Element.textOfClass?, Element.find?_of_not hitem,
    find?_flatMap_preorder (h.other className hclass)]
  cases htext : e.fieldText? with
  | none =>
    simp only [htext] at hfield
    simp [hfield]
  | some text =>
    simp only [htext] at hfield
    obtain ⟨field, hfilter, hown⟩ := hfield
    simp [hfilter, hown, (htrim.fieldText htext).2]

/-- A field with a text can be required. -/
theorem Renders.requireText_fieldClass (h : e.Renders item) (htrim : e.Trimmed)
    {className text : String} (hclass : e.fieldClass? = some className)
    (htext : e.fieldText? = some text) :
    (e.fragment item).requireText className = .ok text := by
  have hfound := h.text?_fieldClass htrim hclass
  rw [htext] at hfound
  have hne : (!text.isEmpty) = true := by
    simpa using (htrim.fieldText htext).1
  rw [Fragment.text?] at hfound
  rw [Fragment.requireText, Page.requireText, hfound, Option.filter_some, if_pos hne]

/-- The link of a message is cut into the URI of the domain and the sequence number. -/
theorem elogParts?_fragment (domain sequenceNumber : UInt32) (payload : String) (item : Element) :
    ((elog domain sequenceNumber payload).fragment item).elogParts? =
      some ((Resource.elogDomain domain).uri, sequenceNumber.toNat.repr) := by
  have hslash : '/' ∉ sequenceNumber.toNat.repr.toList := Text.not_mem_repr (by decide)
  -- neither the URI nor the numeral has a question mark, so that no query is cut off
  have hquestion : '?' ∉ (Resource.elogDomain domain).uri.toList ++
      '/' :: sequenceNumber.toNat.repr.toList := by
    rw [Resource.uri_elogDomain, String.toList_append]
    simp only [List.mem_append, List.mem_cons, not_or]
    exact ⟨⟨by decide +kernel, Text.not_mem_repr (by decide)⟩, by decide,
      Text.not_mem_repr (by decide)⟩
  have htarget : (elog domain sequenceNumber payload).target.toList =
      (Resource.elogDomain domain).uri.toList ++ '/' :: sequenceNumber.toNat.repr.toList := by
    rw [target, String.toList_append, String.toList_append]
    simp
  have hcut : Fragment.withoutQuery (elog domain sequenceNumber payload).target =
      (Resource.elogDomain domain).uri.toList ++ '/' :: sequenceNumber.toNat.repr.toList := by
    rw [Fragment.withoutQuery, htarget, List.takeWhile_eq_self_iff]
    intro c hc
    rw [bne_iff_ne]
    rintro rfl
    exact hquestion hc
  have hclass : ((elog domain sequenceNumber payload).fragment item).className =
      Resource.elogClass := rfl
  rw [Fragment.elogParts?, if_pos hclass, fragment, hcut, Text.splitLast?_join hslash]
  simp only [Option.map_some, String.ofList_toList]

/-- The fragment of a rendering is addressed to the resource of the event. -/
theorem resourceUri_fragment (e : Event) (item : Element) :
    (e.fragment item).resourceUri = e.resource.uri := by
  cases e with
  | elog domain sequenceNumber payload =>
    rw [Fragment.resourceUri, elogParts?_fragment]
    rfl
  | _ => rfl

/-- An event is read back from every item that renders it, up to the white space around its texts.
-/
theorem Renders.decode (h : e.Renders item) (htrim : e.Trimmed) :
    e.resource.decode (e.fragment item) = .ok e := by
  have hclass : ¬ (e.fragment item).className ≠ e.resource.eventClass := by simp [fragment]
  unfold Resource.decode
  rw [if_neg hclass]
  -- one text for each kind of event, but for messages, which are read from the link
  cases e with
  | ioSignal signal value =>
    have htext := h.requireText_fieldClass htrim rfl rfl
    simp only [resource, htext]
    rfl
  | rapidVariable v value =>
    have htext := h.text?_fieldClass htrim rfl
    simp only [resource, htext]
    rfl
  | elog domain sequenceNumber payload =>
    have hnumber : ((elog domain sequenceNumber payload).fragment item).sequenceNumber =
        .ok sequenceNumber := by
      rw [Fragment.sequenceNumber, elogParts?_fragment]
      simp [Text.unsigned?_repr (UInt32.toNat_lt_size sequenceNumber)]
    have htitle : ((elog domain sequenceNumber payload).fragment item).title? = some payload :=
      h.title payload rfl
    simp only [resource, hnumber, htitle]
    rfl
  | executionState state =>
    have htext := h.requireText_fieldClass htrim rfl rfl
    simp only [resource, htext]
    cases state <;> rfl
  | controllerState state =>
    have htext := h.requireText_fieldClass htrim rfl rfl
    simp only [resource, htext]
    cases state <;> rfl

end Event

end RobotWeb
