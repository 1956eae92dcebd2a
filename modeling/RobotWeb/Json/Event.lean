import RobotWeb.Event.Basic
import RobotWeb.Json.Controller
import RobotWeb.Subscription

/-!
# Stored resources and events

How resources, subscriptions to them and the events of them are stored.
-/

namespace RobotWeb.Json

instance : Codec RapidVariable where
  write s := .object [("task", Codec.write s.task), ("module", Codec.write s.module),
    ("name", Codec.write s.name)]
  read? v := do
    let f ← Fields.ofRecord? 3 v
    return ⟨← f.required 0 "task", ← f.required 1 "module", ← f.required 2 "name"⟩

-- ---------------------------------------------------------------------------
-- Resources
-- ---------------------------------------------------------------------------

def writeResource : Resource → Value
  | .ioSignal name => writeVariant "IoSignal" (.object [("name", Codec.write name)])
  | .rapidVariable s => writeVariant "RapidPersistentVariable" (Codec.write s)
  | .elogDomain domain => writeVariant "ElogDomain" (.object [("domain", Codec.write domain)])
  | .executionState => .string "RapidExecutionState"
  | .controllerState => .string "ControllerState"

/-- Reads a resource from the name of a variant and what it holds. -/
def resourceOf? (name : String) (held : Option Value) : Option Resource :=
  match name with
  | "IoSignal" => do
    let f ← Fields.ofVariant? held
    return .ioSignal (← f.required 0 "name")
  | "RapidPersistentVariable" => (held.bind Codec.read?).map .rapidVariable
  | "ElogDomain" => do
    let f ← Fields.ofVariant? held
    return .elogDomain (← f.required 0 "domain")
  | "RapidExecutionState" => if holdsNothing held then some .executionState else none
  | "ControllerState" => if holdsNothing held then some .controllerState else none
  | _ => none

instance : Codec Resource where
  write := writeResource
  read? v := (variant? v).bind fun (name, held) => resourceOf? name held

-- ---------------------------------------------------------------------------
-- Subscriptions
-- ---------------------------------------------------------------------------

instance : Codec Priority :=
  Codec.ofNames Priority.all Priority.name

instance : Codec SubscriptionEntry where
  write e := .object [("resource_uri", Codec.write e.uri), ("priority", Codec.write e.priority)]
  read? v := do
    let f ← Fields.ofRecord? 2 v
    return ⟨← f.required 0 "resource_uri", ← f.required 1 "priority"⟩

instance : Codec Subscription where
  write s := .object [("resources", Codec.write s.entries)]
  read? v := do
    let f ← Fields.ofRecord? 1 v
    return ⟨← f.required 0 "resources"⟩

-- ---------------------------------------------------------------------------
-- Events
-- ---------------------------------------------------------------------------

def writeEvent : Event → Value
  | .ioSignal signal value => writeVariant "IoSignalState"
    (.object [("signal", Codec.write signal), ("value", Codec.write value)])
  | .rapidVariable s value => writeVariant "RapidVariable"
    (.object [("resource", Codec.write s), ("value", Codec.write value)])
  | .elog domain sequenceNumber payload => writeVariant "Elog"
    (.object [("domain", Codec.write domain), ("sequence_number", Codec.write sequenceNumber),
      ("payload", Codec.write payload)])
  | .executionState state => writeVariant "RapidExecutionState"
    (.object [("state", Codec.write state)])
  | .controllerState state => writeVariant "ControllerState"
    (.object [("state", Codec.write state)])

/-- Reads an event from the name of a variant and its fields. -/
def eventOf? (name : String) (f : Fields) : Option Event :=
  match name with
  | "IoSignalState" => do return .ioSignal (← f.required 0 "signal") (← f.required 1 "value")
  | "RapidVariable" => do
    return .rapidVariable (← f.required 0 "resource") (← f.nullable 1 "value")
  | "Elog" => do
    return .elog (← f.required 0 "domain") (← f.required 1 "sequence_number")
      (← f.required 2 "payload")
  | "RapidExecutionState" => do return .executionState (← f.required 0 "state")
  | "ControllerState" => do return .controllerState (← f.required 0 "state")
  | _ => none

instance : Codec Event where
  write := writeEvent
  read? v := do
    let (name, held) ← variant? v
    eventOf? name (← Fields.ofVariant? held)

end RobotWeb.Json
