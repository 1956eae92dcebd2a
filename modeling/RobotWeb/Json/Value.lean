/-!
# JSON values

The values that options, events and states are stored as. The members of an object keep their
order, and numbers are integers unless they are written with a fraction or an exponent.
-/

namespace RobotWeb.Json

/-- A JSON value. -/
inductive Value where
  | null
  | bool (value : Bool)
  | integer (value : Int)
  /-- A number with a fraction or an exponent, as it is written. -/
  | real (literal : String)
  | string (value : String)
  | array (items : List Value)
  | object (members : List (String × Value))

instance : Inhabited Value := ⟨.null⟩

/-- The member of an object with the given name. -/
def member? (members : List (String × Value)) (name : String) : Option Value :=
  (members.find? fun m => m.1 == name).map (·.2)

end RobotWeb.Json
