import RobotWeb.Event.Basic
import RobotWeb.Event.Fragment
import RobotWeb.Text.Numeral

/-!
# Decoding events

The typed event that a fragment tells of, read as an event of the resource that it is addressed
to.
-/

namespace RobotWeb

/-- The sequence number of an event-log message. -/
def Fragment.sequenceNumber (f : Fragment) : Except ProtocolError UInt32 :=
  let number := (f.elogParts?.map (·.2)).getD ""
  match Text.unsigned? UInt32.size number with
  | some n => .ok (UInt32.ofNat n)
  | none => .error (.inContext .missingSequenceNumber f.href)

/-- Decodes a fragment that is addressed to the resource. -/
def Resource.decode (r : Resource) (f : Fragment) : Except ProtocolError Event :=
  if f.className ≠ r.eventClass then
    .error (.inContext (.wrongClass r.uri f.className r.eventClass) f.href)
  else
    match r with
    | .ioSignal name => return .ioSignal name (← f.requireText "lvalue")
    | .rapidVariable v => .ok (.rapidVariable v (f.text? "value"))
    | .elogDomain domain => return .elog domain (← f.sequenceNumber) (f.title?.getD "")
    | .executionState => do
      let text ← f.requireText "ctrlexecstate"
      return .executionState (← ExecutionState.read text)
    | .controllerState => do
      let text ← f.requireText "ctrlstate"
      return .controllerState (← ControllerState.read text)

end RobotWeb
