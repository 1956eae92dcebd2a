/-!
# Log records

What the library reports about its work. Only records that an operator looks at are kept: details
below the level of information are not.
-/

namespace RobotWeb.Log

/-- The levels of log records, the most urgent first. -/
inductive Level where
  | error
  | warn
  | info
  | debug
  | trace
  deriving DecidableEq, Repr

namespace Level

def all : List Level :=
  [error, warn, info, debug, trace]

/-- How much a level lets through: more the less urgent it is. -/
def rank : Level → Nat
  | error => 1
  | warn => 2
  | info => 3
  | debug => 4
  | trace => 5

def name : Level → String
  | error => "ERROR"
  | warn => "WARN"
  | info => "INFO"
  | debug => "DEBUG"
  | trace => "TRACE"

end Level

/-- A log record. -/
structure Record where
  level : Level
  message : String
  deriving DecidableEq, Repr

def Record.text (r : Record) : String :=
  r.level.name ++ " " ++ r.message

end RobotWeb.Log
