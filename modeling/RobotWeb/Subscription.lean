import RobotWeb.Resource
import RobotWeb.Text.Form

/-!
# Subscriptions

The resources that a session asks the controller to push, each with a priority. The form body of
the request numbers them in the order in which they were added.
-/

namespace RobotWeb

/-- How urgently the controller should deliver the events of a resource. -/
inductive Priority where
  | low
  | medium
  | high
  deriving DecidableEq, Repr

namespace Priority

def all : List Priority :=
  [low, medium, high]

/-- The number that stands for the priority in a request. -/
def code : Priority → Nat
  | low => 0
  | medium => 1
  | high => 2

/-- Priorities are ordered by their urgency. -/
instance : LE Priority where
  le p q := p.code ≤ q.code

instance (p q : Priority) : Decidable (p ≤ q) :=
  inferInstanceAs (Decidable (p.code ≤ q.code))

/-- The name that the priority is stored under. -/
def name : Priority → String
  | low => "Low"
  | medium => "Medium"
  | high => "High"

end Priority

/-- A subscribed URI and its priority. -/
structure SubscriptionEntry where
  uri : String
  priority : Priority
  deriving DecidableEq, Repr

/-- The entries of a subscription in the order in which they were added; a URI may occur more than
once. -/
structure Subscription where
  entries : List SubscriptionEntry := []
  deriving DecidableEq, Repr

namespace Subscription

def add (s : Subscription) (uri : String) (priority : Priority) : Subscription :=
  ⟨s.entries ++ [⟨uri, priority⟩]⟩

def addResource (s : Subscription) (r : Resource) (priority : Priority) : Subscription :=
  s.add r.uri priority

def size (s : Subscription) : Nat :=
  s.entries.length

def isEmpty (s : Subscription) : Bool :=
  s.entries.isEmpty

/-- The form fields of an entry: its number, its URI and its priority. -/
def entryFields (index : Nat) (e : SubscriptionEntry) : List (String × String) :=
  let key := toString index
  [("resources", key), (key, e.uri), (key ++ "-p", toString e.priority.code)]

/-- The form fields of the entries, numbered from `index` on. -/
def fieldsFrom (index : Nat) : List SubscriptionEntry → List (String × String)
  | [] => []
  | e :: rest => entryFields index e ++ fieldsFrom (index + 1) rest

/-- The form body that asks for the subscription. -/
def encodeBody (s : Subscription) : String :=
  Text.Form.encode (fieldsFrom 0 s.entries)

end Subscription

end RobotWeb
