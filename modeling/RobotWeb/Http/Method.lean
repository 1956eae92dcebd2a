/-!
# Request methods
-/

namespace RobotWeb.Http

/-- The method of a request. -/
inductive Method where
  | get
  | post
  | put
  | delete
  | patch
  deriving DecidableEq, Repr

def Method.name : Method → String
  | .get => "GET"
  | .post => "POST"
  | .put => "PUT"
  | .delete => "DELETE"
  | .patch => "PATCH"

def Method.named? (name : String) : Option Method :=
  [get, post, put, delete, patch].find? (·.name == name)

end RobotWeb.Http
