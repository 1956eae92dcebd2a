/-!
# Resources

The resources of the controller that a client can subscribe to. Each resource has a URI, which the
subscription names, and a class, which the fragments of its events carry.
-/

namespace RobotWeb

/-- The location of a persistent RAPID variable. -/
structure RapidVariable where
  task : String
  module : String
  name : String
  deriving DecidableEq, Repr

def RapidVariable.symbolUri (v : RapidVariable) : String :=
  "/rw/rapid/symbol/RAPID/" ++ v.task ++ "/" ++ v.module ++ "/" ++ v.name

/-- A resource that can be subscribed to. -/
inductive Resource where
  /-- The state of an IO signal. -/
  | ioSignal (name : String)
  /-- The value of a persistent RAPID variable. -/
  | rapidVariable (symbol : RapidVariable)
  /-- The messages of one domain of the event log. -/
  | elogDomain (domain : UInt32)
  /-- Start and stop of program execution. -/
  | executionState
  /-- The state of the motors and the stops. -/
  | controllerState
  deriving DecidableEq, Repr

namespace Resource

/-- The URI that the resource is subscribed by. -/
def uri : Resource → String
  | ioSignal name => "/rw/iosystem/signals/" ++ name ++ ";state"
  | rapidVariable v => v.symbolUri ++ ";value"
  | elogDomain domain => "/rw/elog/" ++ toString domain.toNat
  | executionState => "/rw/rapid/execution;ctrlexecstate"
  | controllerState => "/rw/panel/ctrl-state"

/-- The class of the fragments of event-log messages. -/
def elogClass : String := "elog-message-ev"

/-- The class of the fragments that the controller sends for the resource. -/
def eventClass : Resource → String
  | ioSignal _ => "ios-signalstate-ev"
  | rapidVariable _ => "rap-value-ev"
  | elogDomain _ => elogClass
  | executionState => "rap-ctrlexecstate-ev"
  | controllerState => "pnl-ctrlstate-ev"

/-- Whether a URI addresses the resource: only the exact URI does. -/
def hasUri (r : Resource) (uri : String) : Bool :=
  uri == r.uri

end Resource

end RobotWeb
