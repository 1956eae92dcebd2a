import RobotWeb.Controller.State

/-!
# Mastership domains

The parts of the controller that one client at a time may change, and how an operation gets the
permission.
-/

namespace RobotWeb.Mastership

/-- A part of the controller that mastership is requested for. -/
inductive Domain where
  | cfg
  | motion
  | rapid
  deriving DecidableEq, Repr

namespace Domain

def all : List Domain :=
  [cfg, motion, rapid]

def wireName : Domain → String
  | cfg => "cfg"
  | motion => "motion"
  | rapid => "rapid"

def name : Domain → String
  | cfg => "Cfg"
  | motion => "Motion"
  | rapid => "Rapid"

/-- The place of the domain in the order of the names. -/
def rank : Domain → Nat
  | cfg => 0
  | motion => 1
  | rapid => 2

def read (text : String) : Except ProtocolError Domain :=
  readWireName all wireName "mastership domain" text

/-- The path that mastership of the domain is requested at. -/
def requestPath (d : Domain) : String :=
  "/rw/mastership/" ++ d.wireName ++ "/request"

/-- The path that mastership of the domain is released at. -/
def releasePath (d : Domain) : String :=
  "/rw/mastership/" ++ d.wireName ++ "/release"

end Domain

/-- How a write operation gets mastership. -/
inductive Mode where
  /-- The controller takes it for the single call. -/
  | implicit
  /-- The caller holds it already. -/
  | explicit
  deriving DecidableEq, Repr

namespace Mode

def all : List Mode :=
  [implicit, explicit]

def wireName : Mode → String
  | implicit => "implicit"
  | explicit => "explicit"

def name : Mode → String
  | implicit => "Implicit"
  | explicit => "Explicit"

end Mode

end RobotWeb.Mastership
