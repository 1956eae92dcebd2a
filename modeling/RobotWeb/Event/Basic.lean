import RobotWeb.Controller.State
import RobotWeb.Resource

/-!
# Events

The typed notifications that subscribers receive.
-/

namespace RobotWeb

/-- A change of a resource. -/
inductive Event where
  /-- An IO signal changed its value. -/
  | ioSignal (signal value : String)
  /-- A RAPID variable changed; the controller may leave out the new value. -/
  | rapidVariable (symbol : RapidVariable) (value : Option String)
  /-- A message was written to a domain of the event log. -/
  | elog (domain sequenceNumber : UInt32) (payload : String)
  /-- Program execution started or stopped. -/
  | executionState (state : ExecutionState)
  /-- The controller changed its state. -/
  | controllerState (state : ControllerState)
  deriving DecidableEq, Repr

end RobotWeb
