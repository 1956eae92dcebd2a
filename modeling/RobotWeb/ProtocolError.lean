import RobotWeb.Http.Method
import RobotWeb.Markup.Malformed

/-!
# Protocol errors

A response or an event that does not have the expected shape. The error keeps the raw content that
it was found in.
-/

namespace RobotWeb

/-- What was wrong with a response or an event. -/
inductive ProtocolFault where
  | malformedMarkup (cause : Markup.Malformed)
  | missingLink
  | missingField (field : String)
  | wrongClass (uri found expected : String)
  | missingSequenceNumber
  | unexpectedValue (quantity : String)
  | notANumber (quantity : String)
  | missingErrorDescription
  | missingProgress
  | unexpectedStatus (method : Http.Method) (uri : String) (status : Nat)
  | invalidUrl (reason : String)
  | stated (message : String)
  deriving DecidableEq, Repr

def ProtocolFault.message : ProtocolFault → String
  | .malformedMarkup cause => "malformed markup: " ++ cause.message
  | .missingLink => "Cannot parse RWS event message: \x60li\x60 element has no \x60a\x60 element"
  | .missingField field => "missing mandatory field '" ++ field ++ "'"
  | .wrongClass uri found expected =>
    "event for " ++ uri ++ " has class '" ++ found ++ "', expected '" ++ expected ++ "'"
  | .missingSequenceNumber => "unable to find sequence number in event-log message URI"
  | .unexpectedValue quantity => "unexpected " ++ quantity
  | .notANumber quantity => quantity ++ " is not a number"
  | .missingErrorDescription => "Unable to find error description"
  | .missingProgress => "CFGFile progress id not found."
  | .unexpectedStatus method uri status =>
    method.name ++ " " ++ uri ++ " returned unexpected status " ++ toString status
  | .invalidUrl reason => "invalid URL: " ++ reason
  | .stated message => message

/-- A fault, and the raw content that it was found in. -/
structure ProtocolError where
  fault : ProtocolFault
  context : Option String := none
  deriving DecidableEq, Repr

namespace ProtocolError

def message (e : ProtocolError) : String :=
  e.fault.message

def description (e : ProtocolError) : String :=
  "Protocol error: " ++ e.message

/-- The error for a fault found in the given content. -/
def inContext (fault : ProtocolFault) (context : String) : ProtocolError :=
  ⟨fault, some context⟩

end ProtocolError

end RobotWeb
