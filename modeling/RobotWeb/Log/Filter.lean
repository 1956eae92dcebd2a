import RobotWeb.Log.Record
import RobotWeb.Text.Alphanumeric
import RobotWeb.Text.Blank
import RobotWeb.Text.Numeral
import RobotWeb.Text.Pattern
import RobotWeb.Text.Split

/-!
# Log filters

Which records are let through. A filter is a list of directives, separated by commas: a level, which
holds for all records, or a target with a level, which holds for the records whose target begins
with it. A condition in brackets binds a directive to a span, to a field, or to both. The directive
with the longest target decides, and of two with one target the one with a field or else the later
one.
-/

namespace RobotWeb.Log

/-- How much is let through: the records up to a level, or none. -/
abbrev Verbosity := Option Level

namespace Verbosity

/-- Whether records of the level are let through. -/
def lets (v : Verbosity) (level : Level) : Bool :=
  match v with
  | some least => level.rank ≤ least.rank
  | none => false

def all : Verbosity := some .trace

/-- The names, each at the place that its number gives. -/
def names : List (String × Verbosity) :=
  ("OFF", none) :: Level.all.map fun level => (level.name, some level)

/-- Reads a verbosity: a number from zero to five, or a name in letters of either case. -/
def read? (text : String) : Option Verbosity :=
  match Text.unsigned? UInt64.size text with
  | some n => names[n]?.map (·.2)
  | none => (names.find? fun (name, _) => name == text.toUpper).map (·.2)

end Verbosity

/-- What holds for the records whose target begins with `target`. A directive may name a `field`,
which gives it weight among those with the same target, and may hold only inside spans: records by
themselves stand in none. -/
structure Directive where
  target : String := ""
  field : Option String := none
  insideSpans : Bool := false
  verbosity : Verbosity := .all
  deriving DecidableEq, Repr

namespace Directive

/-- Whether the directive holds for records of the target. -/
def concerns (d : Directive) (target : String) : Bool :=
  !d.insideSpans && d.target.toList.isPrefixOf target.toList

/-- Whether the directive decides where an earlier one holds as well: it has the longer target, or
the same one and a field whose name is not before the other in the order of texts. -/
def outranks (d earlier : Directive) : Bool :=
  match compare earlier.target.length d.target.length, earlier.field, d.field with
  | .lt, _, _ => true
  | .gt, _, _ => false
  | .eq, none, _ => true
  | .eq, some _, none => false
  | .eq, some old, some new => old ≤ new

-- ---------------------------------------------------------------------------
-- Reading directives
-- ---------------------------------------------------------------------------

/-- A directive as it is cut into parts. The `places` pair the characters of the text without the
blanks around it, which are looked at for marks, with those at the same places of the whole text,
which the parts are made of; the `rest` of the whole text belongs to a part that runs to the end. -/
structure Scan where
  places : List (Char × Char)
  rest : List Char

namespace Scan

def ofText (text : List Char) : Scan :=
  let trimmed := Text.trimBy Text.isBlank text
  ⟨trimmed.zip text, text.drop trimmed.length⟩

def mark? (s : Scan) : Option Char :=
  s.places.head?.map (·.1)

def next (s : Scan) : Scan :=
  { s with places := s.places.tail }

/-- The part before the first of the marks, and what is left from that mark on. -/
def cut (marks : List Char) (s : Scan) : List Char × Scan :=
  let part := s.places.takeWhile fun (mark, _) => !marks.contains mark
  (part.map (·.2), { s with places := s.places.drop part.length })

def all (s : Scan) : List Char :=
  s.places.map (·.2) ++ s.rest

end Scan

/-- Whether a directive may begin with the character, or else with a bracket. -/
def mayStart (c : Char) : Bool :=
  Text.isAlphanumeric c || c == '-' || c == ':' || c == '_'

/-- Reads the verbosity of a directive. One that is left out lets everything through. -/
def withVerbosity? (d : Directive) (text : List Char) : Option Directive :=
  if text.isEmpty then some { d with verbosity := .all }
  else (Verbosity.read? (String.ofList text)).map fun verbosity => { d with verbosity }

/-- Reads what follows a condition in brackets. -/
def afterCondition? (d : Directive) (s : Scan) : Option Directive :=
  match s.mark? with
  | none => some { d with verbosity := .all }
  | some '=' => d.withVerbosity? s.next.all
  | some _ => none

/-- Whether the text can be compared with the values of a field: as a number with a plus sign, or
else as a pattern. -/
def isValuePattern : List Char → Bool
  | '+' :: number =>
    Text.isFraction number ||
      ["inf", "infinity", "nan"].contains (String.ofList number).toLower
  | pattern => Text.Pattern.isWellFormed pattern

/-- Reads a condition on a field: its name, and a pattern for its value, which is only known inside
spans. -/
def withField? (d : Directive) (text : List Char) : Option Directive :=
  if text.isEmpty then none
  else
    match Text.splitOn '=' text with
    | name :: value :: _ =>
      if isValuePattern value then
        some { d with field := some (String.ofList name), insideSpans := true }
      else none
    | _ => some { d with field := some (String.ofList text) }

/-- Reads a condition after its opening bracket: the name of a span, a field in braces, or both. -/
def condition? (d : Directive) (s : Scan) : Option Directive :=
  let (name, s) := s.cut [']', '\x7b']
  match s.mark? with
  | some ']' => { d with insideSpans := true }.afterCondition? s.next
  | some _ =>
    let (field, s) := s.next.cut ['\x7d']
    if s.mark?.isNone || s.next.mark? != some ']' then none
    else
      let named := { d with insideSpans := !name.isEmpty }
      (named.withField? field).bind (·.afterCondition? s.next.next)
  | none => none

/-- Reads a directive: a verbosity, or a target, a condition in brackets, or both, with a verbosity
behind an equals sign or without one. -/
def read? (text : List Char) : Option Directive :=
  let s := Scan.ofText text
  match s.mark? with
  | none => none
  | some '[' => ({} : Directive).condition? s.next
  | some c =>
    if !mayStart c then none
    else
      let (target, s) := s.cut ['=', '[']
      let d : Directive := { target := String.ofList target }
      match s.mark? with
      | some '=' => d.withVerbosity? s.next.all
      | some _ => d.condition? s.next
      | none =>
        let text := String.ofList (target ++ s.rest)
        match Verbosity.read? text with
        | some verbosity => some { verbosity }
        | none => some { target := text }

end Directive

/-- The directives in the order in which they were given. -/
structure Filter where
  directives : List Directive := []
  deriving DecidableEq, Repr

namespace Filter

/-- Reads a filter. Nothing between two commas is no directive. -/
def read? (text : String) : Option Filter :=
  let pieces := (Text.splitOn ',' text.toList).filter (!·.isEmpty)
  (pieces.mapM Directive.read?).map (⟨·⟩)

/-- The one of two directives that decides where both hold. -/
def decisive (best? : Option Directive) (d : Directive) : Directive :=
  match best? with
  | some best => if d.outranks best then d else best
  | none => d

/-- The directive that decides about records of the target. -/
def directive? (f : Filter) (target : String) : Option Directive :=
  (f.directives.filter (·.concerns target)).foldl (fun best? d => some (decisive best? d)) none

/-- Whether records of the target and the level are let through. -/
def lets (f : Filter) (target : String) (level : Level) : Bool :=
  (f.directive? target).any (·.verbosity.lets level)

/-- The levels that are let through for the target. -/
def levels (f : Filter) (target : String) : List Level :=
  Level.all.filter (f.lets target)

end Filter

example : (Filter.read? "warn,robot=trace").map (·.levels "robot::arm") = some Level.all := by
  decide +kernel
example : (Filter.read? "warn,robot=trace").map (·.levels "app") = some [.error, .warn] := by
  decide +kernel
example : (Filter.read? "warn,robot[\x7bjoint\x7d]").map (·.levels "robot") = some Level.all := by
  decide +kernel
example : (Filter.read? "warn,robot[motion]").map (·.levels "robot") = some [.error, .warn] := by
  decide +kernel
example : Filter.read? "=" = none ∧ Filter.read? "a=b=info" = none := by decide +kernel

end RobotWeb.Log
