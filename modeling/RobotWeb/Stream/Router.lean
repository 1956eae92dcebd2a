import RobotWeb.Event.Decode
import RobotWeb.Stream.ParsedFrame

/-!
# Routing events

A router holds the registered resources in the order of their registration. The first one whose
URI a fragment is addressed to decodes the fragment; a later one with the same URI never receives
an event. Subscribers are a function that takes each event to their next state.
-/

namespace RobotWeb.Stream

/-- Takes a subscriber's state to the one after an event of a resource. -/
abbrev Handler (η : Type) := η → Resource → Event → η

/-- The registered resources, first registered first. -/
structure Router where
  resources : List Resource := []
  deriving DecidableEq, Repr

namespace Router

def register (r : Router) (resource : Resource) : Router :=
  ⟨r.resources ++ [resource]⟩

/-- The first registered resource that the URI addresses. -/
def resolve? (r : Router) (uri : String) : Option Resource :=
  r.resources.find? (·.hasUri uri)

/-- The event that a fragment tells of, with the resource that it is addressed to. A fragment that
is addressed to no registered resource has none. -/
def decode (r : Router) (f : Fragment) : Except ProtocolError (Option (Resource × Event)) :=
  match r.resolve? f.resourceUri with
  | none => .ok none
  | some resource =>
    match resource.decode f with
    | .ok event => .ok (some (resource, event))
    | .error e => .error e

/-- Decodes one fragment and hands its event to the subscriber. Tells whether there was one. -/
def deliver {η : Type} (r : Router) (handle : Handler η) (state : η) (f : Fragment) :
    Except ProtocolError Bool × η :=
  match r.decode f with
  | .ok (some (resource, event)) => (.ok true, handle state resource event)
  | .ok none => (.ok false, state)
  | .error e => (.error e, state)

/-- The events of the fragments, or the error of the first one that cannot be decoded. -/
def decodeAll (r : Router) : List Fragment → Except ProtocolError (List (Resource × Event))
  | [] => .ok []
  | f :: rest =>
    match r.decode f with
    | .error e => .error e
    | .ok decoded =>
      match decodeAll r rest with
      | .error e => .error e
      | .ok events => .ok (decoded.toList ++ events)

/-- Hands the events to the subscriber in order. -/
def handleAll {η : Type} (handle : Handler η) (state : η) (events : List (Resource × Event)) : η :=
  events.foldl (fun state (resource, event) => handle state resource event) state

/-- Decodes every fragment of a frame and then delivers all events in order; if one of them
cannot be decoded, nothing is delivered. Tells how many were delivered. -/
def deliverFrame {η : Type} (r : Router) (handle : Handler η) (state : η) (frame : ParsedFrame) :
    Except ProtocolError Nat × η :=
  match r.decodeAll frame.fragments with
  | .ok events => (.ok events.length, handleAll handle state events)
  | .error e => (.error e, state)

end Router

end RobotWeb.Stream
