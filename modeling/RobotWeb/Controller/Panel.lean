import RobotWeb.Controller.Call
import RobotWeb.Controller.State
import RobotWeb.Text.Numeral

/-!
# The operator panel

The controller state, the operation mode and the speed ratio.
-/

namespace RobotWeb.Panel

open Http (Client Answer)

def statePath : String := "/rw/panel/ctrl-state"

def modePath : String := "/rw/panel/opmode"

def speedPath : String := "/rw/panel/speedratio"

/-- The controller state in the page of an answer. -/
def readState (answer : Answer) : Except ProtocolError ControllerState := do
  ControllerState.read (← Page.fieldOf "ctrlstate" answer)

def controllerState (c : Client) : Call ControllerState :=
  Call.reading readState (c.get statePath)

def setControllerState (c : Client) (state : ControllerState) : Call Unit :=
  Call.ignoring (c.post statePath ("ctrl-state=" ++ state.wireName))

/-- The operation mode in the page of an answer. -/
def readMode (answer : Answer) : Except ProtocolError OperationMode := do
  OperationMode.read (← Page.fieldOf "opmode" answer)

def operationMode (c : Client) : Call OperationMode :=
  Call.reading readMode (c.get modePath)

/-- The speed ratio in the page of an answer, in percent. -/
def readSpeed (answer : Answer) : Except ProtocolError Nat := do
  let text ← Page.fieldOf "speedratio" answer
  match Text.unsigned? UInt32.size text with
  | some ratio => return ratio
  | none => throw (.inContext (.notANumber "speed ratio") text)

def speedRatio (c : Client) : Call Nat :=
  Call.reading readSpeed (c.get speedPath)

def maxSpeedRatio : Nat := 100

/-- Sets the speed ratio in percent; a ratio above the highest one is refused. -/
def setSpeedRatio (c : Client) (ratio : Nat) : Call Unit :=
  if ratio ≤ maxSpeedRatio then
    Call.ignoring (c.post (speedPath ++ "?action=setspeedratio") ("speed-ratio=" ++ toString ratio))
  else Call.refused c (.outOfRange "speed-ratio" 0 maxSpeedRatio ratio)

end RobotWeb.Panel
