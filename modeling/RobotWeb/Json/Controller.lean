import RobotWeb.Controller.Configuration
import RobotWeb.Controller.ReturnCode
import RobotWeb.Controller.State
import RobotWeb.Json.Codec

/-!
# Stored states and answers

How the states of the controller, the domains of mastership, files and return codes are stored.
-/

namespace RobotWeb.Json

instance : Codec ControllerState :=
  Codec.ofNames ControllerState.all ControllerState.name

instance : Codec OperationMode :=
  Codec.ofNames OperationMode.all OperationMode.name

instance : Codec ExecutionState :=
  Codec.ofNames ExecutionState.all ExecutionState.name

instance : Codec Mastership.Domain :=
  Codec.ofNames Mastership.Domain.all Mastership.Domain.name

instance : Codec Mastership.Mode :=
  Codec.ofNames Mastership.Mode.all Mastership.Mode.name

instance : Codec Configuration.File where
  write f := .object [("directory", Codec.write f.directory), ("filename", Codec.write f.filename)]
  read? v := do
    let f ← Fields.ofRecord? 2 v
    return ⟨← f.required 0 "directory", ← f.required 1 "filename"⟩

instance : Codec ReturnCode where
  write r := .object [("code", Codec.write r.code), ("name", Codec.write r.name),
    ("severity", Codec.write r.severity), ("description", Codec.write r.description)]
  read? v := do
    let f ← Fields.ofRecord? 4 v
    return ⟨← f.required 0 "code", ← f.required 1 "name", ← f.required 2 "severity",
      ← f.required 3 "description"⟩

end RobotWeb.Json
