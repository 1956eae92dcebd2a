import RobotWeb.Stream.Router

/-!
# Which events a frame has

A frame delivers all its events or none: those of the fragments that are addressed to a registered
resource, if every one of them can be decoded.

* `Router.matched`     — the fragments that are addressed to a registered resource.
* `Router.eventsIn`    — their events, or none.
* `deliverFrame_state` — these and no others reach the subscriber, in order.
-/

namespace RobotWeb.Stream.Router

variable {η : Type}

/-- The fragments that are addressed to a registered resource, each with the first such one. -/
def matched (r : Router) (fragments : List Fragment) : List (Resource × Fragment) :=
  fragments.filterMap fun f => (r.resolve? f.resourceUri).map fun resource => (resource, f)

/-- The event of a matched fragment, if it can be decoded. -/
def event? : Resource × Fragment → Option (Resource × Event)
  | (resource, f) => (resource.decode f).toOption.map fun event => (resource, event)

/-- The events of the matched fragments, if all of them can be decoded. -/
def eventsIn (r : Router) (fragments : List Fragment) : List (Resource × Event) :=
  if (r.matched fragments).all fun m => (event? m).isSome then
    (r.matched fragments).filterMap event?
  else []

/-- A fragment of no resource is passed over. -/
theorem matched_cons_of_none {r : Router} {f : Fragment} (h : r.resolve? f.resourceUri = none)
    (rest : List Fragment) : r.matched (f :: rest) = r.matched rest := by
  simp [matched, h]

/-- A fragment of some resource is matched with it. -/
theorem matched_cons_of_some {r : Router} {f : Fragment} {resource : Resource}
    (h : r.resolve? f.resourceUri = some resource) (rest : List Fragment) :
    r.matched (f :: rest) = (resource, f) :: r.matched rest := by
  simp [matched, h]

/-- All matched fragments can be decoded, or one of them is the cause of the error. -/
theorem decodeAll_cases (r : Router) (fragments : List Fragment) :
    ((r.matched fragments).all (fun m => (event? m).isSome) = true ∧
      r.decodeAll fragments = .ok ((r.matched fragments).filterMap event?)) ∨
    ((r.matched fragments).all (fun m => (event? m).isSome) = false ∧
      ∃ e, r.decodeAll fragments = .error e) := by
  -- over the fragments: those that nobody has registered count for neither side
  induction fragments with
  | nil => exact .inl ⟨rfl, rfl⟩
  | cons f rest ih =>
    cases hr : r.resolve? f.resourceUri with
    | none =>
      have hf : r.decode f = .ok none := by simp [decode, hr]
      rw [matched_cons_of_none hr]
      rcases ih with ⟨hall, hrest⟩ | ⟨hall, e, hrest⟩
      · exact .inl ⟨hall, by simp [decodeAll, hf, hrest]⟩
      · exact .inr ⟨hall, e, by simp [decodeAll, hf, hrest]⟩
    | some resource =>
      rw [matched_cons_of_some hr]
      cases hd : resource.decode f with
      | error e =>
        have hf : r.decode f = .error e := by simp [decode, hr, hd]
        have hevent : event? (resource, f) = none := by simp [event?, hd, Except.toOption]
        exact .inr ⟨by simp [hevent], e, by simp [decodeAll, hf]⟩
      | ok event =>
        have hf : r.decode f = .ok (some (resource, event)) := by simp [decode, hr, hd]
        have hevent : event? (resource, f) = some (resource, event) := by
          simp [event?, hd, Except.toOption]
        rcases ih with ⟨hall, hrest⟩ | ⟨hall, e, hrest⟩
        · exact .inl ⟨by simp [hevent, hall], by simp [decodeAll, hf, hrest, hevent]⟩
        · exact .inr ⟨by simp [hall], e, by simp [decodeAll, hf, hrest]⟩

/-- The events of a frame reach the subscriber one after the other. -/
theorem deliverFrame_state (r : Router) (handle : Handler η) (state : η) (frame : ParsedFrame) :
    (r.deliverFrame handle state frame).2 =
      handleAll handle state (r.eventsIn frame.fragments) := by
  rcases decodeAll_cases r frame.fragments with ⟨hall, hd⟩ | ⟨hall, e, hd⟩
  · simp [deliverFrame, hd, eventsIn, hall]
  · simp [deliverFrame, hd, eventsIn, hall, handleAll]

/-- What comes of a frame does not depend on who subscribes. -/
theorem deliverFrame_fst {η' : Type} (r : Router) (handle : Handler η) (state : η)
    (handle' : Handler η') (state' : η') (frame : ParsedFrame) :
    (r.deliverFrame handle state frame).1 = (r.deliverFrame handle' state' frame).1 := by
  unfold deliverFrame
  cases r.decodeAll frame.fragments <;> rfl

/-- A frame that cannot be delivered reaches the subscriber in no part. -/
theorem deliverFrame_of_error {r : Router} {handle : Handler η} {state : η} {frame : ParsedFrame}
    {e : ProtocolError} (h : (r.deliverFrame handle state frame).1 = .error e) :
    r.deliverFrame handle state frame = (.error e, state) := by
  unfold deliverFrame at h ⊢
  split at h
  · cases h
  · obtain rfl := Except.error.inj h
    rfl

theorem handleAll_append (handle : Handler η) (state : η) (xs ys : List (Resource × Event)) :
    handleAll handle state (xs ++ ys) = handleAll handle (handleAll handle state xs) ys :=
  List.foldl_append

end RobotWeb.Stream.Router
