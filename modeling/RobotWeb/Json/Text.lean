import RobotWeb.Json.Value
import RobotWeb.Text.Numeral

/-!
# JSON texts

Reading and writing of JSON values as text. A text is cut into tokens one character at a time, and
the tokens are put together with the containers that are not closed yet held in a list. So reading
goes once over the text, whatever the values are nested in.
-/

namespace RobotWeb.Json

-- ---------------------------------------------------------------------------
-- Tokens
-- ---------------------------------------------------------------------------

/-- A piece of a JSON text. -/
inductive Token where
  | openArray
  | closeArray
  | openObject
  | closeObject
  | comma
  | colon
  | value (v : Value)

namespace Token

def ofChar? : Char → Option Token
  | '[' => some openArray
  | ']' => some closeArray
  | '{' => some openObject
  | '}' => some closeObject
  | ',' => some comma
  | ':' => some colon
  | _ => none

end Token

/-- Whether the character may stand between tokens. -/
def isSpace (c : Char) : Bool :=
  c == ' ' || c == '\t' || c == '\n' || c == '\r'

/-- Whether all characters are decimal digits, and there is one at least. -/
def isDigits (cs : List Char) : Bool :=
  !cs.isEmpty && cs.all Char.isDigit

/-- Whether the characters are a fraction and an exponent, each of which may be missing. -/
def isFraction (cs : List Char) : Bool :=
  let exponent (cs : List Char) : Bool := match cs with
    | [] => true
    | e :: '+' :: digits | e :: '-' :: digits => e.toLower == 'e' && isDigits digits
    | e :: digits => e.toLower == 'e' && isDigits digits
  match cs with
  | '.' :: rest => rest.head?.any Char.isDigit && exponent (rest.dropWhile Char.isDigit)
  | rest => exponent rest

/-- Reads a number without its sign. A zero with a sign is no integer. -/
def readNumber? (negative : Bool) (cs : List Char) : Option Value :=
  let whole := cs.takeWhile Char.isDigit
  let rest := cs.dropWhile Char.isDigit
  if !isDigits whole || (whole.length ≠ 1 && whole.head? = some '0') then none
  else
    let real := Value.real (String.ofList (if negative then '-' :: cs else cs))
    if rest.isEmpty then
      match negative, Text.digits? whole with
      | false, some n => some (.integer n)
      | true, some (n + 1) => some (.integer (Int.negSucc n))
      | _, _ => some real
    else if isFraction rest then some real else none

def readWord? (word : String) : Option Value :=
  match word with
  | "null" => some .null
  | "true" => some (.bool true)
  | "false" => some (.bool false)
  | word =>
    match word.toList with
    | '-' :: cs => readNumber? true cs
    | cs => readNumber? false cs

/-- What a cut into tokens is inside of. Characters are listed the last one first; `high?` is the
first half of a pair of code units that must be followed by the second. -/
inductive Place where
  | between
  | word (chars : List Char)
  | string (chars : List Char) (high? : Option Nat)
  | escape (chars : List Char) (high? : Option Nat)
  | unit (chars : List Char) (high? : Option Nat) (digits : List Char)

/-- The character of an escape with one letter. -/
def escaped? : Char → Option Char
  | '"' => some '"'
  | '\\' => some '\\'
  | '/' => some '/'
  | 'b' => some '\x08'
  | 'f' => some '\x0c'
  | 'n' => some '\n'
  | 'r' => some '\r'
  | 't' => some '\t'
  | _ => none

def addUnit? (chars : List Char) (high? : Option Nat) (unit : Nat) : Option Place :=
  let isLow := 0xDC00 ≤ unit && unit < 0xE000
  match high? with
  | some high =>
    if isLow then
      some (.string
        (Char.ofNat (0x10000 + (high - 0xD800) * 0x400 + (unit - 0xDC00)) :: chars) none)
    else none
  | none =>
    if isLow then none
    else if 0xD800 ≤ unit && unit < 0xE000 then some (.string chars (some unit))
    else some (.string (Char.ofNat unit :: chars) none)

/-- Goes on between tokens. `tokens` are listed the last one first. -/
def stepBetween (tokens : List Token) (c : Char) : Place × List Token :=
  match Token.ofChar? c with
  | some token => (.between, token :: tokens)
  | none =>
    if isSpace c then (.between, tokens)
    else if c == '"' then (.string [] none, tokens)
    else (.word [c], tokens)

def endWord? (chars : List Char) (tokens : List Token) : Option (List Token) :=
  (readWord? (String.ofList chars.reverse)).map (.value · :: tokens)

def step? (state : Place × List Token) (c : Char) : Option (Place × List Token) :=
  let (place, tokens) := state
  match place with
  | .between => some (stepBetween tokens c)
  | .word chars =>
    if isSpace c || c == '"' || (Token.ofChar? c).isSome then
      (endWord? chars tokens).map (stepBetween · c)
    else some (.word (c :: chars), tokens)
  | .string chars high? =>
    if c == '\\' then some (.escape chars high?, tokens)
    else if high?.isSome || c.toNat < 0x20 then none
    else if c == '"' then some (.between, .value (.string (String.ofList chars.reverse)) :: tokens)
    else some (.string (c :: chars) none, tokens)
  | .escape chars high? =>
    if c == 'u' then some (.unit chars high? [], tokens)
    else if high?.isSome then none
    else (escaped? c).map fun plain => (.string (plain :: chars) none, tokens)
  | .unit chars high? digits =>
    if digits.length < 3 then some (.unit chars high? (c :: digits), tokens)
    else
      ((Text.numeral? 16 (c :: digits).reverse).bind (addUnit? chars high?)).map (·, tokens)

def tokens? (text : List Char) : Option (List Token) :=
  match text.foldlM step? (.between, []) with
  | some (.between, tokens) => some tokens.reverse
  | some (.word chars, tokens) => (endWord? chars tokens).map List.reverse
  | _ => none

-- ---------------------------------------------------------------------------
-- Values
-- ---------------------------------------------------------------------------

/-- A container that is not closed yet. What it holds is listed the last one first. -/
inductive Container where
  | array (items : List Value)
  | object (members : List (String × Value)) (name : String)

/-- What is due next in a text. -/
inductive Due where
  /-- A value, or the end of an empty array. -/
  | value (mayEnd : Bool)
  /-- The name of a member, or the end of an empty object. -/
  | name (mayEnd : Bool)
  | colon
  /-- What follows a value. -/
  | after (v : Value)

def place? : List Container × Due → Token → Option (List Container × Due)
  | (outer, .value _), .value v => some (outer, .after v)
  | (outer, .value _), .openArray => some (.array [] :: outer, .value true)
  | (outer, .value _), .openObject => some (.object [] "" :: outer, .name true)
  | (.array _ :: outer, .value true), .closeArray => some (outer, .after (.array []))
  | (.object _ _ :: outer, .name true), .closeObject => some (outer, .after (.object []))
  | (.object ms _ :: outer, .name _), .value (.string name) =>
    some (.object ms name :: outer, .colon)
  | (outer, .colon), .colon => some (outer, .value false)
  | (.array items :: outer, .after v), .comma => some (.array (v :: items) :: outer, .value false)
  | (.object ms name :: outer, .after v), .comma =>
    some (.object ((name, v) :: ms) "" :: outer, .name false)
  | (.array items :: outer, .after v), .closeArray =>
    some (outer, .after (.array (v :: items).reverse))
  | (.object ms name :: outer, .after v), .closeObject =>
    some (outer, .after (.object ((name, v) :: ms).reverse))
  | _, _ => none

def read? (text : String) : Option Value := do
  match (← tokens? text.toList).foldlM place? ([], .value false) with
  | some ([], .after v) => some v
  | _ => none

-- ---------------------------------------------------------------------------
-- Writing
-- ---------------------------------------------------------------------------

/-- The four hexadecimal digits of a code unit. -/
def unitDigits (n : Nat) : List Char :=
  [n / 4096 % 16, n / 256 % 16, n / 16 % 16, n % 16].map Text.hexDigit

/-- Whether the character is written as a code unit: a control character, or one that ends a line
in some texts. -/
def isEscaped (c : Char) : Bool :=
  c.toNat < 0x20 || c.toNat == 0x7F || c.toNat == 0x85 || c.toNat == 0x2028 || c.toNat == 0x2029

def charText (c : Char) : List Char :=
  if c == '"' || c == '\\' then ['\\', c]
  else if isEscaped c then '\\' :: 'u' :: unitDigits c.toNat
  else [c]

def stringText (s : String) : String :=
  "\"" ++ String.ofList (s.toList.flatMap charText) ++ "\""

mutual

def Value.text : Value → String
  | .null => "null"
  | .bool b => if b then "true" else "false"
  | .integer n => toString n
  | .real literal => literal
  | .string s => stringText s
  | .array items => "[" ++ ",".intercalate (itemTexts items) ++ "]"
  | .object members => "\x7b" ++ ",".intercalate (memberTexts members) ++ "\x7d"

def itemTexts : List Value → List String
  | [] => []
  | v :: rest => v.text :: itemTexts rest

def memberTexts : List (String × Value) → List String
  | [] => []
  | (name, v) :: rest => (stringText name ++ ":" ++ v.text) :: memberTexts rest

end

example : (read? " [1, -20 ,\"a\\u00e9\\n\"]\n").map Value.text = some "[1,-20,\"aé\\u000A\"]" := by
  decide +kernel
example : (read? "[0.5e-3,[],true]").map Value.text = some "[0.5e-3,[],true]" := by decide +kernel
example : (read? "[1,]").isNone ∧ (read? "01").isNone ∧ (read? "\"\\ud800\"").isNone := by
  decide +kernel

end RobotWeb.Json
