import RobotWeb.Controller.Restart
import RobotWeb.Controller.State
import RobotWeb.Resource

/-!
# Programs

What there is to read of the RAPID program: whether it is executing, and the values of its symbols.
-/

namespace RobotWeb.Program

open Http (Client Answer)

/-- The execution state in the page of an answer. -/
def readState (answer : Answer) : Except ProtocolError ExecutionState := do
  ExecutionState.read (← Page.fieldOf "ctrlexecstate" answer)

def executionState (c : Client) : Call ExecutionState :=
  Call.reading readState (c.get executionPath)

/-- Gets the value of a symbol, in the form that programs write it. -/
def symbolValue (c : Client) (v : RapidVariable) : Call String :=
  Call.reading (Page.fieldOf "value") (c.get (v.symbolUri ++ "/data"))

end RobotWeb.Program
