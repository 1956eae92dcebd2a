import RobotWeb.Controller.Call
import RobotWeb.Mastership.Domain

/-!
# Starts and stops

The RAPID program is started and stopped, and the controller is restarted. A start says how it is to
hold the mastership that it needs.
-/

namespace RobotWeb

namespace Program

open Http (Client)

/-- The path of the execution of the program. -/
def executionPath : String := "/rw/rapid/execution"

/-- The form that starts execution at the program pointer, in an endless cycle. -/
def startForm : String :=
  "regain=continue&execmode=continue&cycle=forever&condition=none&stopatbp=disabled" ++
    "&alltaskbytsp=false"

def start (c : Client) (mode : Mastership.Mode) : Call Unit :=
  Call.ignoring (c.post (executionPath ++ "/start?mastership=" ++ mode.wireName) startForm)

def stop (c : Client) : Call Unit :=
  Call.ignoring (c.post (executionPath ++ "/stop") "stopmode=stop")

end Program

/-- Asks for a warm restart. -/
def restart (c : Http.Client) (mode : Mastership.Mode) : Call Unit :=
  Call.ignoring ((c.note .info "restarting controller").post
    ("/ctrl/restart?mastership=" ++ mode.wireName) "restart-mode=restart")

end RobotWeb
