import RobotWeb.Proofs.Stream.Fragments
import RobotWeb.Proofs.Stream.Routing

/-!
# Frames delivered whole and by fragments

The events of a frame can be delivered together, or fragment by fragment. Both ways find the same
events in the same order, and differ in one thing: fragment by fragment, what stands before a
fragment that cannot be decoded is delivered and what stands behind it too, while a frame that has
such a fragment is not delivered at all.

* `ParsedFrame.items`              — the list items of a page in document order.
* `Router.deliverEach`             — delivery by fragments.
* `decodeAll_eq`                   — the events of all fragments, or the first failure.
* `deliverEach_eq`                 — what delivery by fragments tells and delivers.
* `deliverFrame_eq_deliverEach`    — delivery of the frame, by what delivery by fragments does.
-/

namespace RobotWeb.Stream

open Markup (Element)

variable {η : Type}

/-- The list items of the page in document order. -/
def ParsedFrame.items (p : ParsedFrame) : List Element :=
  (p.root?.toList.flatMap Element.preorder).filter (·.name == itemName)

/-- The fragments of a frame are those of its items. -/
theorem ParsedFrame.fragments_eq_filterMap (p : ParsedFrame) :
    p.fragments = p.items.filterMap fun item => (Fragment.ofElement item).toOption := by
  rw [fragments, Walk.toList_eq, items, List.filterMap_filter]
  simp only [walk, Walk.remaining, beq_iff_eq]
  rfl

namespace Router

/-- Delivers fragments one by one, each whatever came of those before it. Tells what came of each
of them, of the first one first. -/
def deliverEach (r : Router) (handle : Handler η) (state : η) :
    List Fragment → List (Except ProtocolError Bool) × η
  | [] => ([], state)
  | f :: rest =>
    let (outcome, state) := r.deliver handle state f
    let (outcomes, state) := r.deliverEach handle state rest
    (outcome :: outcomes, state)

/-- Whether an event was delivered. -/
def foundEvent : Except ProtocolError Bool → Bool
  | .ok found => found
  | .error _ => false

/-- The failure of the first one that failed. -/
def firstFailure? (outcomes : List (Except ProtocolError Bool)) : Option ProtocolError :=
  outcomes.findSome? fun
    | .ok _ => none
    | .error e => some e

/-- The event that a fragment has for the router, if there is one and it can be decoded. -/
def eventOf? (r : Router) (f : Fragment) : Option (Resource × Event) :=
  match r.decode f with
  | .ok decoded => decoded
  | .error _ => none

/-- What comes of the delivery of a fragment depends on the fragment alone. -/
def outcomeOf (r : Router) (f : Fragment) : Except ProtocolError Bool :=
  (r.decode f).map Option.isSome

/-- Delivering one fragment hands over its event, if it has one. -/
theorem deliver_eq (r : Router) (handle : Handler η) (state : η) (f : Fragment) :
    r.deliver handle state f =
      (r.outcomeOf f, handleAll handle state (r.eventOf? f).toList) := by
  unfold deliver outcomeOf eventOf?
  split <;> rename_i h <;> simp [h, handleAll, Except.map]

/-- The fragments are all decoded, or the first failure is that of the whole. -/
theorem decodeAll_eq (r : Router) (fragments : List Fragment) :
    r.decodeAll fragments =
      match firstFailure? (fragments.map r.outcomeOf) with
      | none => .ok (fragments.filterMap r.eventOf?)
      | some e => .error e := by
  -- over the fragments: the first failure is that of the first one, or of the rest
  induction fragments with
  | nil => rfl
  | cons f rest ih =>
    cases hf : r.decode f with
    | error e => simp [decodeAll, hf, firstFailure?, outcomeOf, Except.map]
    | ok decoded =>
      have hhead : firstFailure? ((f :: rest).map r.outcomeOf) =
          firstFailure? (rest.map r.outcomeOf) := by
        simp [firstFailure?, outcomeOf, hf, Except.map]
      have hevents : (f :: rest).filterMap r.eventOf? =
          decoded.toList ++ rest.filterMap r.eventOf? := by
        cases decoded <;> simp [eventOf?, hf]
      rw [decodeAll, hf, hhead, hevents, ih]
      cases firstFailure? (rest.map r.outcomeOf) <;> rfl

/-- Delivering fragment by fragment hands over all events that can be decoded, whatever comes
between. -/
theorem deliverEach_eq (r : Router) (handle : Handler η) (state : η) (fragments : List Fragment) :
    r.deliverEach handle state fragments =
      (fragments.map r.outcomeOf, handleAll handle state (fragments.filterMap r.eventOf?)) := by
  induction fragments generalizing state with
  | nil => rfl
  | cons f rest ih =>
    have hevents : (f :: rest).filterMap r.eventOf? =
        (r.eventOf? f).toList ++ rest.filterMap r.eventOf? := by
      cases h : r.eventOf? f <;> simp [h]
    rw [deliverEach, deliver_eq, hevents, handleAll_append]
    simp only [ih, List.map_cons]

/-- As many fragments are found to have an event as events are delivered. -/
theorem countP_foundEvent (r : Router) (fragments : List Fragment) :
    (fragments.map r.outcomeOf).countP foundEvent = (fragments.filterMap r.eventOf?).length := by
  induction fragments with
  | nil => rfl
  | cons f rest ih =>
    rw [List.map_cons, List.countP_cons, ih]
    cases hf : r.decode f with
    | error e => simp [outcomeOf, eventOf?, hf, Except.map, foundEvent]
    | ok decoded => cases decoded <;> simp [outcomeOf, eventOf?, hf, Except.map, foundEvent]

/-- **A frame is delivered as its fragments are, or not at all.** The fragments of a frame are
those of its list items in document order. If none of them fails to be delivered on its own, the
frame delivers the same events in the same order and tells how many fragments had one. Otherwise
it fails as the first fragment that does, and the subscriber hears of none of its events. -/
theorem deliverFrame_eq_deliverEach (r : Router) (frame : ParsedFrame) :
    frame.fragments =
      frame.items.filterMap (fun item => (Fragment.ofElement item).toOption) ∧
    ∀ {η : Type} (handle : Handler η) (state : η),
      let each := r.deliverEach handle state frame.fragments
      r.deliverFrame handle state frame =
        match firstFailure? each.1 with
        | none => (.ok (each.1.countP foundEvent), each.2)
        | some e => (.error e, state) := by
  refine ⟨frame.fragments_eq_filterMap, fun {η} handle state => ?_⟩
  simp only [deliverEach_eq, countP_foundEvent, deliverFrame, decodeAll_eq]
  cases firstFailure? (frame.fragments.map r.outcomeOf) <;> rfl

/-- An event, an item that nobody has registered for, and one that cannot be decoded. -/
example :
    let item (href : String) : Markup.Node :=
      .element ⟨"li", [("class", "elog-message-ev")], [.element ⟨"a", [("href", href)], []⟩]⟩
    let items := [item "/rw/elog/1/7", item "/rw/elog/2/8", item "/rw/elog/1/last"]
    (Router.mk [.elogDomain 1]).deliverFrame (fun seen _ _ => seen + 1) 0
        ⟨some ⟨"ul", [], items⟩, 3⟩ =
      (.error (.inContext .missingSequenceNumber "/rw/elog/1/last"), 0) := by
  simp only [deliverFrame, ParsedFrame.fragments_eq_filterMap]
  rfl

end Router

end RobotWeb.Stream
