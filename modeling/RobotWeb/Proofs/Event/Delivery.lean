import Mathlib.Data.List.Forall2
import RobotWeb.Proofs.Event.Rendering
import RobotWeb.Proofs.Stream.Fragments
import RobotWeb.Stream.Router

/-!
# Delivery of what the controller writes

A page whose list items render some events is a frame with exactly these events: those whose
resource is registered reach the subscriber, as they are and in their order.

* `Router.registered`             — the events that a router has a resource for.
* `decodeAll_of_renders`          — the renderings of events are decoded as these.
* `rendered_events_are_delivered` — so they are delivered, whatever stands around them.
-/

namespace RobotWeb.Stream

open Markup (Element)

/-- The events whose resource is registered, each with the first registered resource of its URI. -/
def Router.registered (r : Router) (events : List Event) : List (Resource × Event) :=
  events.filterMap fun e =>
    (r.resources.find? (·.uri == e.resource.uri)).map fun resource => (resource, e)

/-- The URIs tell the resources of the events from all registered ones: no task and no module of a
RAPID variable has a slash, or else no part of those of the events has one. -/
structure Router.Distinguishes (r : Router) (events : List Event) : Prop where
  plain : ∀ e ∈ events, e.resource.Plain
  registered : (∀ resource ∈ r.resources, resource.Plain) ∨ ∀ e ∈ events, e.resource.Flat

variable {r : Router} {events : List Event} {items : List Element}

theorem Router.Distinguishes.tail {e : Event} (h : r.Distinguishes (e :: events)) :
    r.Distinguishes events where
  plain := fun other hother => h.plain other (List.mem_cons_of_mem _ hother)
  registered := h.registered.imp_right fun hflat other hother =>
    hflat other (List.mem_cons_of_mem _ hother)

/-- The only registered resource with the URI of an event is that of the event. -/
theorem Router.Distinguishes.eq_resource {e : Event} {resource : Resource}
    (h : r.Distinguishes events) (he : e ∈ events) (hresource : resource ∈ r.resources)
    (huri : resource.uri = e.resource.uri) : resource = e.resource :=
  (Resource.uri_injective (h.plain e he)
    (h.registered.imp (fun hplain => hplain resource hresource) fun hflat => hflat e he)
    huri.symm).symm

/-- The router looks for the first resource with the URI. -/
theorem Router.resolve?_eq (r : Router) (uri : String) :
    r.resolve? uri = r.resources.find? (·.uri == uri) := by
  unfold resolve?
  congr 1
  funext resource
  exact Bool.beq_comm

/-- The fragment of a rendering is decoded as the event, if its resource is registered. -/
theorem decode_of_renders {e : Event} {item : Element} (hrenders : e.Renders item)
    (htrim : e.Trimmed) (he : e ∈ events) (h : r.Distinguishes events) :
    r.decode (e.fragment item) =
      .ok ((r.resources.find? (·.uri == e.resource.uri)).map fun resource => (resource, e)) := by
  rw [Router.decode, Event.resourceUri_fragment, Router.resolve?_eq]
  cases hfind : r.resources.find? (·.uri == e.resource.uri) with
  | none => rfl
  | some resource =>
    have huri : resource.uri = e.resource.uri := by simpa using List.find?_some hfind
    obtain rfl := h.eq_resource he (List.mem_of_find?_eq_some hfind) huri
    simp [hrenders.decode htrim]

/-- The fragments of renderings are decoded as the events that are registered. -/
theorem decodeAll_of_renders (hrenders : List.Forall₂ Event.Renders events items)
    (htrim : ∀ e ∈ events, e.Trimmed) (h : r.Distinguishes events) :
    r.decodeAll (items.filterMap fun item => (Fragment.ofElement item).toOption) =
      .ok (r.registered events) := by
  induction hrenders with
  | nil => rfl
  | @cons e item events items hitem hrest ih =>
    have hdecode := decode_of_renders hitem (htrim e List.mem_cons_self) List.mem_cons_self h
    have htail := ih (fun other hother => htrim other (List.mem_cons_of_mem _ hother)) h.tail
    have hfragment : (Fragment.ofElement item).toOption = some (e.fragment item) := by
      rw [hitem.ofElement]
      rfl
    simp only [List.filterMap_cons, hfragment, Router.decodeAll, hdecode, htail, Router.registered]
    cases r.resources.find? (·.uri == e.resource.uri) <;> rfl

theorem renders_of_mem (hrenders : List.Forall₂ Event.Renders events items) {item : Element}
    (hitem : item ∈ items) : ∃ e : Event, e.Renders item := by
  induction hrenders with
  | nil => cases hitem
  | @cons e first _ _ hfirst _ ih =>
    rcases List.mem_cons.mp hitem with rfl | hrest
    · exact ⟨e, hfirst⟩
    · exact ih hrest

/-- **What the controller writes is delivered.** A page whose list items render some events is
accepted, and the subscriber receives those events whose resource is registered, each once, in
their order and with the first registered resource of the URI. -/
theorem rendered_events_are_delivered {root : Element}
    (hrenders : List.Forall₂ Event.Renders events (root.preorder.filter (·.name == "li")))
    (htrim : ∀ e ∈ events, e.Trimmed) (h : r.Distinguishes events) :
    (∀ content, Text.isBlankText content = false → Page.parse content = .ok root →
      ParsedFrame.parse content = .ok ⟨some root, events.length⟩) ∧
    ∀ {η : Type} (handle : Handler η) (state : η),
      r.deliverFrame handle state ⟨some root, events.length⟩ =
        (.ok (r.registered events).length,
          Router.handleAll handle state (r.registered events)) := by
  -- the list items that are searched for by name are those of the document order
  have hitems : root.withName itemName = root.preorder.filter (·.name == "li") :=
    root.withName_eq itemName
  rw [← hitems] at hrenders
  refine ⟨fun content hcontent hpage => ?_, fun {η} handle state => ?_⟩
  · rw [hrenders.length_eq]
    refine parse_of_items hcontent hpage fun item hitem => ?_
    obtain ⟨e, he⟩ := renders_of_mem hrenders hitem
    exact ⟨_, he.ofElement⟩
  · rw [Router.deliverFrame, fragments_eq, decodeAll_of_renders hrenders htrim h]

/-- A page with the shortest renderings of some events. -/
def pageOf (events : List Event) : Element :=
  ⟨"ul", [], events.map fun e => .element e.item⟩

/-- The page of some events has an item for each, in their order. -/
theorem renders_pageOf (events : List Event) :
    List.Forall₂ Event.Renders events ((pageOf events).preorder.filter (·.name == "li")) := by
  have hchildren : (pageOf events).childElements = events.map Event.item := by
    simp [pageOf, Element.childElements, Function.comp_def, Markup.Node.asElement?]
  have hroot : ((pageOf events).name == "li") = false := rfl
  rw [Element.preorder_eq, List.filter_cons_of_neg (by simp [hroot]), hchildren]
  clear hchildren hroot
  induction events with
  | nil => exact .nil
  | cons e rest ih =>
    have hinside :
        (e.item.childElements.flatMap Element.preorder).filter (·.name == "li") = [] := by
      refine List.filter_eq_nil_iff.mpr fun inner hinner => ?_
      obtain ⟨child, hchild, hinner⟩ := List.mem_flatMap.mp hinner
      simpa using e.renders_item.flat child hchild inner hinner
    rw [List.map_cons, List.flatMap_cons, List.filter_append, Element.preorder_eq,
      List.filter_cons_of_pos (by rfl), hinside]
    exact .cons e.renders_item ih

/-- A message, a variable without a value, and a signal that nobody has registered. -/
theorem message_and_variable_are_delivered :
    let v : RapidVariable := ⟨"T_ROB1", "Module1", "counter"⟩
    let events : List Event :=
      [.elog 1 4294967295 " two words ", .rapidVariable v none, .ioSignal "do1" "1"]
    let r : Router := ⟨[.rapidVariable v, .elogDomain 1, .elogDomain 1]⟩
    r.deliverFrame (fun seen resource e => seen ++ [(resource, e)]) []
      ⟨some (pageOf events), events.length⟩ =
        (.ok 2, [(.elogDomain 1, .elog 1 4294967295 " two words "),
          (.rapidVariable v, .rapidVariable v none)]) := by
  intro v events r
  have hv : v.Plain := by
    constructor <;> decide +kernel
  have htrim : ∀ e ∈ events, e.Trimmed := by
    have hvalue : "1" ≠ "" ∧ Text.trim "1" = "1" := by decide
    simp only [events, List.forall_mem_cons]
    exact ⟨trivial, trivial, hvalue, nofun⟩
  -- the registered resources are the variable and one domain, listed twice
  have hdistinct : r.Distinguishes events := by
    constructor
    · simp only [events, List.forall_mem_cons]
      exact ⟨trivial, hv, trivial, nofun⟩
    · simp only [r, List.forall_mem_cons]
      exact .inl ⟨hv, trivial, trivial, nofun⟩
  have hregistered : r.registered events = [(.elogDomain 1, .elog 1 4294967295 " two words "),
      (.rapidVariable v, .rapidVariable v none)] := by
    decide +kernel
  rw [(rendered_events_are_delivered (renders_pageOf events) htrim hdistinct).2, hregistered]
  rfl

end RobotWeb.Stream
