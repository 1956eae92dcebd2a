import RobotWeb.Json.Value

/-!
# Members with defaults

Looks at the members of an object where a missing one, or one of another kind, stands for an empty
value.
-/

namespace RobotWeb.Json.Value

def field (v : Value) (name : String) : Value :=
  match v with
  | object members => (member? members name).getD null
  | _ => null

/-- Whether there is a member with the given name. -/
def has (v : Value) (name : String) : Bool :=
  match v with
  | object members => (member? members name).isSome
  | _ => false

/-- The text of a string; other values have none. -/
def text? : Value → Option String
  | string s => some s
  | _ => none

def integer? : Value → Option Int
  | integer n => some n
  | _ => none

/-- The items of an array; other values have none. -/
def items : Value → List Value
  | array items => items
  | _ => []

def isTrue : Value → Bool
  | bool b => b
  | _ => false

def textAt (v : Value) (name : String) : String :=
  (v.field name).text?.getD ""

def itemsAt (v : Value) (name : String) : List Value :=
  (v.field name).items

def textsAt (v : Value) (name : String) : List String :=
  (v.itemsAt name).map fun item => item.text?.getD ""

def integerAt (v : Value) (name : String) : Int :=
  (v.field name).integer?.getD 0

def naturalAt (v : Value) (name : String) : Nat :=
  (v.integerAt name).toNat

def isTrueAt (v : Value) (name : String) : Bool :=
  (v.field name).isTrue

end RobotWeb.Json.Value
