import RobotWeb.Log.Filter
import RobotWeb.Text.Utf8

/-!
# Setting up the log

A process has one log, which is installed once. What it lets through comes from the environment:
the level, or else the fallback level, or else what the mode shows by default, and a target that
narrows it. A setup that fails changes nothing.
-/

namespace RobotWeb.Log

-- ---------------------------------------------------------------------------
-- The environment
-- ---------------------------------------------------------------------------

/-- The value of a setting of the environment, which need not be text. -/
inductive Setting where
  | unset
  | text (value : String)
  | notText
  deriving DecidableEq, Repr

namespace Setting

def ofBytes (bytes : List UInt8) : Setting :=
  match Text.Utf8.decode? bytes with
  | some value => .text (String.ofList value)
  | none => .notText

def text? : Setting → Option String
  | .text value => some value
  | .unset | .notText => none

end Setting

/-- The settings that a log is set up from. -/
structure Environment where
  mode : Setting := .unset
  level : Setting := .unset
  fallbackLevel : Setting := .unset
  target : Setting := .unset
  deriving DecidableEq, Repr

-- ---------------------------------------------------------------------------
-- Modes
-- ---------------------------------------------------------------------------

/-- How records are shown. -/
inductive Mode where
  /-- Not at all: nothing is installed. -/
  | silent
  /-- On one line each. -/
  | development
  /-- On several lines each, with the place in the code. -/
  | debug
  /-- As one JSON object each. -/
  | json
  deriving DecidableEq, Repr

namespace Mode

def all : List Mode :=
  [silent, development, debug, json]

def name : Mode → String
  | silent => "silent"
  | development => "development"
  | debug => "debug"
  | json => "json"

/-- The level that the mode shows by default; a silent one has none. -/
def defaultLevel? : Mode → Option String
  | silent => none
  | development | json => some "info"
  | debug => some "debug"

/-- The text as it is compared with the names: without blanks at either end, and with ASCII
letters in lower case. -/
def canonical (text : String) : String :=
  (Text.trim text).toLower

def named? (name : String) : Option Mode :=
  all.find? (·.name == name)

end Mode

-- ---------------------------------------------------------------------------
-- Installing
-- ---------------------------------------------------------------------------

/-- Why a log was not installed. -/
inductive SetupError where
  | alreadyInstalled
  | modeNotText
  | unknownMode (name : String)
  | invalidFilter (directives : String)
  deriving DecidableEq, Repr

def SetupError.description : SetupError → String
  | .alreadyInstalled =>
    "Failed to initialize tracing subscriber: a global default trace dispatcher has already been set"
  | .modeNotText =>
    "Invalid environment variable: RWS_LOG_MODE: environment variable was not valid unicode"
  | .unknownMode name =>
    "Invalid environment variable: RWS_LOG_MODE: unknown mode '" ++ name ++ "'"
  | .invalidFilter directives =>
    "Invalid environment variable: log filter '" ++ directives ++ "': invalid filter directive"

/-- The directives of a filter: the level, which the target narrows unless the level has targets of
its own. -/
def directives (env : Environment) (defaultLevel : String) : String :=
  let level := (env.level.text?.or env.fallbackLevel.text?).getD defaultLevel
  match env.target.text? with
  | some target =>
    if target.isEmpty || level.toList.contains '=' then level else target ++ "=" ++ level
  | none => level

/-- The mode that the environment chooses; without a choice it is silent. -/
def chosenMode (env : Environment) : Except SetupError Mode :=
  match env.mode with
  | .unset => .ok .silent
  | .notText => .error .modeNotText
  | .text value =>
    match Mode.named? (Mode.canonical value) with
    | some mode => .ok mode
    | none => .error (.unknownMode (Mode.canonical value))

/-- The log of a process: the filter of the one that was installed. -/
structure Setup where
  filter? : Option Filter := none
  deriving DecidableEq, Repr

namespace Setup

def isInstalled (s : Setup) : Bool :=
  s.filter?.isSome

/-- Installs a log with the given filter, unless there is one. -/
def install (s : Setup) (f : Filter) : Except SetupError Unit × Setup :=
  if s.isInstalled then (.error .alreadyInstalled, s) else (.ok (), ⟨some f⟩)

/-- Sets the log up in a mode. The filter is read before anything is installed. -/
def start (s : Setup) (env : Environment) (mode : Mode) : Except SetupError Unit × Setup :=
  match mode.defaultLevel? with
  | none => (.ok (), s)
  | some defaultLevel =>
    let text := directives env defaultLevel
    match Filter.read? text with
    | none => (.error (.invalidFilter text), s)
    | some f => s.install f

/-- Sets the log up in the mode that the environment chooses. -/
def startChosen (s : Setup) (env : Environment) : Except SetupError Unit × Setup :=
  match chosenMode env with
  | .error e => (.error e, s)
  | .ok mode => s.start env mode

/-- The levels that are let through for the target. -/
def levels (s : Setup) (target : String) : List Level :=
  (s.filter?.map (·.levels target)).getD []

end Setup

end RobotWeb.Log
