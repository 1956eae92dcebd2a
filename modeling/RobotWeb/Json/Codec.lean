import RobotWeb.Duration
import RobotWeb.Json.Value
import RobotWeb.Url.Parser

/-!
# Values stored as JSON

How the values of a type are stored. A record is an object with its fields, or an array of them in
their order; fields of an object that the record does not have are ignored. A variant is its name,
or an object with its name alone and what the variant holds.
-/

namespace RobotWeb.Json

/-- A type whose values are stored as JSON. -/
class Codec (α : Type) where
  /-- The JSON value of a value. -/
  write : α → Value
  /-- The value that a JSON value stands for, if it has the form that is written. -/
  read? : Value → Option α

-- ---------------------------------------------------------------------------
-- Plain values
-- ---------------------------------------------------------------------------

instance : Codec String where
  write := .string
  read?
    | .string s => some s
    | _ => none

instance : Codec Bool where
  write := .bool
  read?
    | .bool b => some b
    | _ => none

def natural? (bound : Nat) : Value → Option Nat
  | .integer n => if 0 ≤ n ∧ n < bound then some n.toNat else none
  | _ => none

instance : Codec UInt32 where
  write n := .integer n.toNat
  read? v := (natural? UInt32.size v).map UInt32.ofNat

instance : Codec Int32 where
  write n := .integer n.toInt
  read?
    | .integer n => if Text.fitsInt32 n then some (Int32.ofInt n) else none
    | _ => none

instance {α : Type} [Codec α] : Codec (Option α) where
  write
    | some a => Codec.write a
    | none => .null
  read?
    | .null => some none
    | v => (Codec.read? v).map some

instance {α : Type} [Codec α] : Codec (List α) where
  write as := .array (as.map Codec.write)
  read?
    | .array items => items.mapM Codec.read?
    | _ => none

-- ---------------------------------------------------------------------------
-- Records
-- ---------------------------------------------------------------------------

/-- The stored fields of a record: by their names, or by their places. -/
inductive Fields where
  | named (members : List (String × Value))
  | placed (items : List Value)

namespace Fields

/-- The fields of a record that has `count` of them. -/
def ofRecord? (count : Nat) : Value → Option Fields
  | .object members => some (.named members)
  | .array items => if items.length ≤ count then some (.placed items) else none
  | _ => none

def find? (f : Fields) (place : Nat) (name : String) : Option Value :=
  match f with
  | named members => member? members name
  | placed items => items[place]?

variable {α : Type} [Codec α]

def required (f : Fields) (place : Nat) (name : String) : Option α :=
  (f.find? place name).bind Codec.read?

def defaulted (f : Fields) (place : Nat) (name : String) (default : α) : Option α :=
  match f.find? place name with
  | none => some default
  | some v => Codec.read? v

/-- A field that may be empty. By name it may be missing too. -/
def nullable (f : Fields) (place : Nat) (name : String) : Option (Option α) :=
  match f, f.find? place name with
  | named _, none => some none
  | placed _, none => none
  | _, some v => Codec.read? v

end Fields

-- ---------------------------------------------------------------------------
-- Variants
-- ---------------------------------------------------------------------------

def variant? : Value → Option (String × Option Value)
  | .string name => some (name, none)
  | .object [(name, held)] => some (name, some held)
  | _ => none

/-- Whether a variant that holds nothing was stored with nothing. -/
def holdsNothing : Option Value → Bool
  | none | some .null => true
  | _ => false

def Fields.ofVariant? : Option Value → Option Fields
  | some (.object members) => some (.named members)
  | _ => none

/-- The JSON value of a variant that holds something. -/
def writeVariant (name : String) (held : Value) : Value :=
  .object [(name, held)]

/-- The member of a list of variants without contents that has the stored name. -/
def readName? {α : Type} (all : List α) (name : α → String) (v : Value) : Option α :=
  match variant? v with
  | some (found, held) => if holdsNothing held then all.find? (name · == found) else none
  | none => none

/-- A type of variants without contents. -/
@[reducible] def Codec.ofNames {α : Type} (all : List α) (name : α → String) : Codec α where
  write a := .string (name a)
  read? := readName? all name

-- ---------------------------------------------------------------------------
-- Durations and URLs
-- ---------------------------------------------------------------------------

/-- The seconds and the nanoseconds of a duration; both have to be there, and nothing else. -/
def durationParts? : Value → Option (Value × Value)
  | .object members =>
    if members.length = 2 then
      (member? members "secs").bind fun secs =>
        (member? members "nanos").map fun nanos => (secs, nanos)
    else none
  | .array [secs, nanos] => some (secs, nanos)
  | _ => none

instance : Codec Duration where
  write d := .object [("secs", .integer d.seconds), ("nanos", .integer d.nanoseconds)]
  read? v := do
    let (secs, nanos) ← durationParts? v
    Duration.carrying? (← natural? UInt64.size secs) (← natural? UInt32.size nanos)

instance : Codec Url where
  write url := .string url.text
  read?
    | .string text => (Url.parse text).toOption
    | _ => none

end RobotWeb.Json
