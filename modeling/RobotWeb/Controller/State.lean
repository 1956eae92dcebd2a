import RobotWeb.ProtocolError

/-!
# States of the controller

The state of the motors, the operation mode and the state of program execution. Each state has a
wire name, and reading a text accepts exactly the wire names.
-/

namespace RobotWeb

/-- Reads a wire name among `states`; any other text is an unexpected value of the quantity. -/
def readWireName {α : Type} (states : List α) (wireName : α → String) (quantity text : String) :
    Except ProtocolError α :=
  match states.find? (wireName · == text) with
  | some state => .ok state
  | none => .error (.inContext (.unexpectedValue quantity) text)

-- ---------------------------------------------------------------------------
-- Controller state
-- ---------------------------------------------------------------------------

/-- The state of the motors and the stops. -/
inductive ControllerState where
  | initial
  | motorOn
  | motorOff
  | guardStop
  | emergencyStop
  | emergencyStopReset
  | systemFailure
  deriving DecidableEq, Repr

namespace ControllerState

def all : List ControllerState :=
  [initial, motorOn, motorOff, guardStop, emergencyStop, emergencyStopReset, systemFailure]

/-- The text that the controller uses for the state. -/
def wireName : ControllerState → String
  | initial => "init"
  | motorOn => "motoron"
  | motorOff => "motoroff"
  | guardStop => "guardstop"
  | emergencyStop => "emergencystop"
  | emergencyStopReset => "emergencystopreset"
  | systemFailure => "sysfail"

def name : ControllerState → String
  | initial => "Init"
  | motorOn => "MotorOn"
  | motorOff => "MotorOff"
  | guardStop => "GuardStop"
  | emergencyStop => "EmergencyStop"
  | emergencyStopReset => "EmergencyStopReset"
  | systemFailure => "SysFail"

def read (text : String) : Except ProtocolError ControllerState :=
  readWireName all wireName "controller state" text

end ControllerState

-- ---------------------------------------------------------------------------
-- Operation mode
-- ---------------------------------------------------------------------------

/-- The operation mode selected on the controller; the two changes are requested and not yet
confirmed. -/
inductive OperationMode where
  | initial
  | autoChange
  | manualFullChange
  | manualReduced
  | manualFull
  | auto
  | undefined
  deriving DecidableEq, Repr

namespace OperationMode

def all : List OperationMode :=
  [initial, autoChange, manualFullChange, manualReduced, manualFull, auto, undefined]

/-- The text that the controller uses for the mode. -/
def wireName : OperationMode → String
  | initial => "INIT"
  | autoChange => "AUTO_CH"
  | manualFullChange => "MANF_CH"
  | manualReduced => "MANR"
  | manualFull => "MANF"
  | auto => "AUTO"
  | undefined => "UNDEF"

def name : OperationMode → String
  | initial => "Init"
  | autoChange => "AutoChange"
  | manualFullChange => "ManualFullChange"
  | manualReduced => "ManualReduced"
  | manualFull => "ManualFull"
  | auto => "Auto"
  | undefined => "Undefined"

def read (text : String) : Except ProtocolError OperationMode :=
  readWireName all wireName "operation mode" text

end OperationMode

-- ---------------------------------------------------------------------------
-- Execution state
-- ---------------------------------------------------------------------------

/-- Whether the RAPID program is executing. -/
inductive ExecutionState where
  | running
  | stopped
  deriving DecidableEq, Repr

namespace ExecutionState

def all : List ExecutionState :=
  [running, stopped]

/-- The text that the controller uses for the state. -/
def wireName : ExecutionState → String
  | running => "running"
  | stopped => "stopped"

def name : ExecutionState → String
  | running => "Running"
  | stopped => "Stopped"

def read (text : String) : Except ProtocolError ExecutionState :=
  readWireName all wireName "RAPID execution state" text

end ExecutionState

end RobotWeb
