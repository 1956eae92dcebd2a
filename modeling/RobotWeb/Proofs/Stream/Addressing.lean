import RobotWeb.Proofs.Event.Delivery
import RobotWeb.Proofs.Stream.Atomicity
import RobotWeb.Proofs.Text.Numeral

/-!
# To which resource an event is delivered

An event is delivered for one registered resource: the first one with the URI that the fragment is
addressed to. The fragment carries the class of this resource, and the event is one of it. No other
resource has that URI, as long as tasks and modules of RAPID variables have no slash.

* `Resource.decode_eq_ok`    — what is decoded is an event of the resource.
* `Router.First`             — the first registered resource with a URI.
* `Router.delivery`          — what comes of a fragment, and what a subscriber is handed.
* `Router.mem_delivery`      — which event is handed over, and for which resource.
* `Router.events_reach_their_resource` — no event is delivered for another resource.
-/

namespace RobotWeb

-- ---------------------------------------------------------------------------
-- Decoding
-- ---------------------------------------------------------------------------

/-- Only a fragment of the resource's class is decoded, and the event is one of the resource. -/
theorem Resource.decode_eq_ok {resource : Resource} {f : Fragment} {e : Event}
    (h : resource.decode f = .ok e) :
    f.className = resource.eventClass ∧ e.resource = resource := by
  unfold decode at h
  split at h
  · cases h
  · rename_i hclass
    refine ⟨not_not.mp hclass, ?_⟩
    -- what is decoded carries the resource that it is decoded for
    cases resource with
    | ioSignal name =>
      obtain ⟨value, -, h⟩ := exists_ok_of_bind h
      obtain rfl := Except.ok.inj h
      rfl
    | rapidVariable v =>
      obtain rfl := Except.ok.inj h
      rfl
    | elogDomain domain =>
      obtain ⟨number, -, h⟩ := exists_ok_of_bind h
      obtain rfl := Except.ok.inj h
      rfl
    | executionState =>
      obtain ⟨text, -, h⟩ := exists_ok_of_bind h
      obtain ⟨state, -, h⟩ := exists_ok_of_bind h
      obtain rfl := Except.ok.inj h
      rfl
    | controllerState =>
      obtain ⟨text, -, h⟩ := exists_ok_of_bind h
      obtain ⟨state, -, h⟩ := exists_ok_of_bind h
      obtain rfl := Except.ok.inj h
      rfl

namespace Stream.Router

variable {η : Type}

-- ---------------------------------------------------------------------------
-- The first resource with a URI
-- ---------------------------------------------------------------------------

/-- The resource is the first one of the list that has the URI. -/
def First (resources : List Resource) (uri : String) (resource : Resource) : Prop :=
  ∃ before after, resources = before ++ resource :: after ∧ resource.uri = uri ∧
    ∀ other ∈ before, other.uri ≠ uri

/-- A router resolves a URI to the first resource that has it. -/
theorem resolve?_eq_some {r : Router} {uri : String} {resource : Resource} :
    r.resolve? uri = some resource ↔ First r.resources uri resource := by
  rw [resolve?_eq, List.find?_eq_some_iff_append]
  unfold First
  constructor
  · rintro ⟨huri, before, after, hresources, hbefore⟩
    exact ⟨before, after, hresources, by simpa using huri, by simpa using hbefore⟩
  · rintro ⟨before, after, hresources, huri, hbefore⟩
    exact ⟨by simpa using huri, before, after, hresources, by simpa using hbefore⟩

-- ---------------------------------------------------------------------------
-- What a subscriber is handed
-- ---------------------------------------------------------------------------

/-- A subscriber that keeps what it is handed. -/
def keepAll : Handler (List (Resource × Event)) :=
  fun kept resource e => kept ++ [(resource, e)]

/-- What comes of a fragment, and what is handed over. -/
def delivery (r : Router) (f : Fragment) : Except ProtocolError Bool × List (Resource × Event) :=
  r.deliver keepAll [] f

/-- What comes of a frame, and what is handed over. -/
def frameDelivery (r : Router) (frame : ParsedFrame) :
    Except ProtocolError Nat × List (Resource × Event) :=
  r.deliverFrame keepAll [] frame

theorem handleAll_keepAll (kept events : List (Resource × Event)) :
    handleAll keepAll kept events = kept ++ events := by
  induction events generalizing kept with
  | nil => simp [handleAll]
  | cons event rest ih =>
    have hrest : handleAll keepAll (kept ++ [event]) rest = _ := ih _
    show handleAll keepAll (kept ++ [event]) rest = _
    rw [hrest, List.append_assoc]
    rfl

/-- What is delivered of a fragment is its event, if it has one. -/
theorem delivery_eq (r : Router) (f : Fragment) :
    r.delivery f = (r.outcomeOf f, (r.eventOf? f).toList) := by
  unfold delivery
  rw [deliver_eq, handleAll_keepAll, List.nil_append]

/-- What is delivered of a frame are its events, all or none. -/
theorem frameDelivery_snd (r : Router) (frame : ParsedFrame) :
    (r.frameDelivery frame).2 = r.eventsIn frame.fragments := by
  unfold frameDelivery
  rw [deliverFrame_state, handleAll_keepAll, List.nil_append]

/-- Every subscriber is handed the same. -/
theorem deliver_eq_delivery (r : Router) (handle : Handler η) (state : η) (f : Fragment) :
    r.deliver handle state f =
      ((r.delivery f).1, handleAll handle state (r.delivery f).2) := by
  rw [deliver_eq, delivery_eq]

/-- Every subscriber is handed what is delivered, whatever it does with that. -/
theorem deliverFrame_eq_delivery (r : Router) (handle : Handler η) (state : η)
    (frame : ParsedFrame) :
    r.deliverFrame handle state frame =
      ((r.frameDelivery frame).1, handleAll handle state (r.frameDelivery frame).2) := by
  rw [frameDelivery_snd, ← deliverFrame_state]
  exact Prod.ext (deliverFrame_fst r handle state keepAll [] frame) rfl

/-- An event is handed over for the first resource with the URI of the fragment, as this resource
decodes it. -/
theorem mem_delivery {r : Router} {f : Fragment} {resource : Resource} {e : Event} :
    (resource, e) ∈ (r.delivery f).2 ↔
      First r.resources f.resourceUri resource ∧ resource.decode f = .ok e := by
  rw [delivery_eq, Option.mem_toList, ← resolve?_eq_some]
  unfold eventOf? decode
  -- nobody has registered the URI, the resource cannot decode the fragment, or it can
  cases r.resolve? f.resourceUri with
  | none => simp
  | some found =>
    cases hdecode : found.decode f with
    | error failure =>
      simp only [hdecode, reduceCtorEq, Option.some.injEq, false_iff, not_and]
      rintro rfl
      simp [hdecode]
    | ok event =>
      simp only [hdecode, Option.some.injEq, Prod.mk.injEq]
      constructor
      · rintro ⟨rfl, rfl⟩
        exact ⟨rfl, hdecode⟩
      · rintro ⟨rfl, hother⟩
        exact ⟨rfl, Except.ok.inj (hdecode.symm.trans hother)⟩

/-- What a frame hands over is handed over for one of its fragments. -/
theorem mem_delivery_of_mem_frameDelivery {r : Router} {frame : ParsedFrame}
    {call : Resource × Event} (h : call ∈ (r.frameDelivery frame).2) :
    ∃ f ∈ frame.fragments, call ∈ (r.delivery f).2 := by
  rw [frameDelivery_snd] at h
  unfold eventsIn at h
  split at h
  · obtain ⟨⟨resource, f⟩, hmatched, hevent⟩ := List.mem_filterMap.mp h
    obtain ⟨g, hg, hresolve⟩ := List.mem_filterMap.mp hmatched
    obtain ⟨found, hfound, heq⟩ := Option.map_eq_some_iff.mp hresolve
    obtain ⟨rfl, rfl⟩ := Prod.mk.inj heq
    obtain ⟨e, hdecode, rfl⟩ := Option.map_eq_some_iff.mp hevent
    refine ⟨g, hg, mem_delivery.mpr ⟨resolve?_eq_some.mp hfound, ?_⟩⟩
    cases hd : found.decode g with
    | error failure => simp [hd, Except.toOption] at hdecode
    | ok event => simpa [hd, Except.toOption] using hdecode
  · cases h

-- ---------------------------------------------------------------------------
-- The right resource
-- ---------------------------------------------------------------------------

/-- The event belongs to the resource that it is handed over for, and that resource to the
fragment. -/
structure Addressed (r : Router) (f : Fragment) (resource : Resource) (e : Event) : Prop where
  first : First r.resources f.resourceUri resource
  className : f.className = resource.eventClass
  /-- The event names the signal, the variable or the domain that the resource is. -/
  own : e.resource = resource
  /-- No other registered resource has the URI of the fragment. -/
  alone : resource.Plain → ∀ other ∈ r.resources, other.Plain → other.uri = f.resourceUri →
    other = resource

/-- What is delivered of a fragment is addressed to its resource. -/
theorem addressed_of_mem_delivery {r : Router} {f : Fragment} {resource : Resource} {e : Event}
    (h : (resource, e) ∈ (r.delivery f).2) : r.Addressed f resource e := by
  obtain ⟨hfirst, hdecode⟩ := mem_delivery.mp h
  obtain ⟨hclass, hown⟩ := Resource.decode_eq_ok hdecode
  have huri : resource.uri = f.resourceUri := by
    obtain ⟨before, after, -, huri, -⟩ := hfirst
    exact huri
  refine ⟨hfirst, hclass, hown, ?_⟩
  intro hplain other _ hother heq
  exact Resource.uri_injective hother (.inl hplain) (heq.trans huri.symm)

/-- **No event reaches a subscriber for another resource.** Every subscriber is handed the same for
a fragment, and the same for a frame. What is handed over for a fragment is handed over for the
first registered resource with the URI that the fragment is addressed to; the fragment has the class
of that resource, and the event is one of it. The same holds of what is handed over for a frame,
with one of its fragments. And no two resources share a URI, as long as tasks and modules have no
slash, so that no other registered resource has the URI of the fragment. -/
theorem events_reach_their_resource (r : Router) :
    (∀ f, (∀ {η : Type} (handle : Handler η) (state : η),
        r.deliver handle state f = ((r.delivery f).1, handleAll handle state (r.delivery f).2)) ∧
      ∀ resource e, (resource, e) ∈ (r.delivery f).2 → r.Addressed f resource e) ∧
    (∀ frame, (∀ {η : Type} (handle : Handler η) (state : η),
        r.deliverFrame handle state frame =
          ((r.frameDelivery frame).1, handleAll handle state (r.frameDelivery frame).2)) ∧
      ∀ resource e, (resource, e) ∈ (r.frameDelivery frame).2 →
        ∃ f ∈ frame.fragments, r.Addressed f resource e) ∧
    ∀ a b : Resource, a.Plain → b.Plain → a.uri = b.uri → a = b := by
  refine ⟨fun f => ⟨fun handle state => deliver_eq_delivery r handle state f, ?_⟩,
    fun frame => ⟨fun handle state => deliverFrame_eq_delivery r handle state frame, ?_⟩, ?_⟩
  · intro resource e h
    exact addressed_of_mem_delivery h
  · intro resource e h
    obtain ⟨f, hf, hdelivery⟩ := mem_delivery_of_mem_frameDelivery h
    exact ⟨f, hf, addressed_of_mem_delivery hdelivery⟩
  · intro a b ha hb huri
    exact Resource.uri_injective ha (.inl hb) huri

/-- Two resources that are registered for the URI of a message, and one with a URI that begins in
the same way. -/
theorem message_reaches_its_domain :
    let f : Fragment := ⟨⟨"li", [("title", "stop")], []⟩, "elog-message-ev", "/rw/elog/1/7?lang=en"⟩
    let r : Router := ⟨[.elogDomain 17, .elogDomain 1, .ioSignal "1", .elogDomain 1]⟩
    (Resource.elogDomain 1, Event.elog 1 7 "stop") ∈ (r.delivery f).2 ∧
      r.Addressed f (.elogDomain 1) (.elog 1 7 "stop") := by
  intro f r
  have hmem : (Resource.elogDomain 1, Event.elog 1 7 "stop") ∈ (r.delivery f).2 := by
    decide +kernel
  exact ⟨hmem, ((events_reach_their_resource r).1 f).2 _ _ hmem⟩

end Stream.Router

end RobotWeb
