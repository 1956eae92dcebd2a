import RobotWeb.Text.Percent
import RobotWeb.Text.Split

/-!
# Hosts

The host of a URL: a name, an IPv4 address, whose numbers may be written in several bases and
short forms, or an IPv6 address in brackets.
-/

namespace RobotWeb.Url

/-- Why a text is not a URL. -/
inductive Fault where
  | emptyHost
  | invalidDomainName
  | invalidPort
  | invalidIpv4
  | invalidIpv6
  | invalidHostCharacter
  | missingBase
  | flatBase
  deriving DecidableEq, Repr

def Fault.message : Fault → String
  | .emptyHost => "empty host"
  | .invalidDomainName => "invalid international domain name"
  | .invalidPort => "invalid port number"
  | .invalidIpv4 => "invalid IPv4 address"
  | .invalidIpv6 => "invalid IPv6 address"
  | .invalidHostCharacter => "invalid domain character"
  | .missingBase => "relative URL without a base"
  | .flatBase => "relative URL with a cannot-be-a-base base"

/-- A host. An IPv4 address is its number, an IPv6 address its eight pieces. -/
inductive Host where
  | name (text : String)
  | ipv4 (address : Nat)
  | ipv6 (pieces : List Nat)
  deriving DecidableEq, Repr

-- ---------------------------------------------------------------------------
-- IPv4 addresses
-- ---------------------------------------------------------------------------

/-- The base of a number and its digits: `0x` marks hexadecimal and a further leading zero octal
digits. -/
def numberForm : List Char → Nat × List Char
  | '0' :: 'x' :: digits => (16, digits)
  | '0' :: 'X' :: digits => (16, digits)
  | '0' :: d :: digits => (8, d :: digits)
  | digits => (10, digits)

/-- The value of a number in an IPv4 address; no digits after a mark are zero. -/
def ipv4Number? (cs : List Char) : Option Nat :=
  if cs.isEmpty then none
  else
    match numberForm cs with
    | (_, []) => some 0
    | (base, digits) => Text.numeral? base digits

/-- Whether the last label of a name, leaving out an empty one at the end, is a number. -/
def endsInNumber (cs : List Char) : Bool :=
  let last? := match (Text.splitOn '.' cs).reverse with
    | [] :: label :: _ => some label
    | [] :: [] => none
    | label :: _ => some label
    | [] => none
  match last? with
  | none => false
  | some label => (!label.isEmpty && label.all (·.isDigit)) || (ipv4Number? label).isSome

/-- The address of the numbers: each but the last is one byte, and the last fills the rest. -/
def ipv4OfNumbers? (numbers : List Nat) : Option Nat :=
  match numbers.reverse with
  | [] => none
  | last :: others =>
    let high := others.reverse
    let space := 1 <<< (8 * (4 - high.length))
    if numbers.length ≤ 4 && high.all (· < 256) && last < space then
      some (high.foldl (fun value byte => 256 * value + byte) 0 * space + last)
    else none

/-- Reads an IPv4 address of one to four numbers, which a dot may follow. -/
def ipv4? (cs : List Char) : Option Nat := do
  let parts := Text.splitOn '.' cs
  let parts := if parts.getLast? = some [] then parts.dropLast else parts
  let numbers ← parts.mapM ipv4Number?
  ipv4OfNumbers? numbers

-- ---------------------------------------------------------------------------
-- IPv6 addresses
-- ---------------------------------------------------------------------------

/-- Reads a piece of one to four hexadecimal digits. -/
def piece? (cs : List Char) : Option Nat :=
  if cs.length ≤ 4 then Text.numeral? 16 cs else none

/-- Reads a byte in decimal digits without a leading zero. -/
def byte? (cs : List Char) : Option Nat :=
  match cs with
  | '0' :: _ :: _ => none
  | _ => (Text.digits? cs).filter (· < 256)

/-- Reads four bytes with dots between them as two pieces. -/
def dottedPieces? (cs : List Char) : Option (List Nat) := do
  match ← (Text.splitOn '.' cs).mapM byte? with
  | [a, b, c, d] => some [256 * a + b, 256 * c + d]
  | _ => none

/-- Reads the pieces of groups; the last group may be an IPv4 address if `dotted` is set. -/
def pieces? (dotted : Bool) : List (List Char) → Option (List Nat)
  | [] => some []
  | [last] =>
    match piece? last with
    | some piece => some [piece]
    | none => if dotted then dottedPieces? last else none
  | group :: rest => do
    let piece ← piece? group
    let more ← pieces? dotted rest
    some (piece :: more)

/-- The groups between colons; an empty text has none. -/
def groups (cs : List Char) : List (List Char) :=
  if cs.isEmpty then [] else Text.splitOn ':' cs

/-- The text before the first occurrence of two colons, and the text after it. -/
def cutAtGap : List Char → Option (List Char × List Char)
  | [] => none
  | [_] => none
  | a :: b :: rest =>
    if a = ':' && b = ':' then some ([], rest)
    else (cutAtGap (b :: rest)).map fun (before, after) => (a :: before, after)

/-- Reads the eight pieces of an IPv6 address. Two colons stand for one or more pieces of zero. -/
def ipv6? (cs : List Char) : Option (List Nat) := do
  match cutAtGap cs with
  | none =>
    let pieces ← pieces? true (groups cs)
    if pieces.length = 8 then some pieces else none
  | some (before, after) =>
    let high ← pieces? false (groups before)
    let low ← pieces? true (groups after)
    if high.length + low.length ≤ 7 then
      some (high ++ List.replicate (8 - (high.length + low.length)) 0 ++ low)
    else none

-- ---------------------------------------------------------------------------
-- Text of a host
-- ---------------------------------------------------------------------------

def leadingZeros (pieces : List Nat) : Nat :=
  (pieces.takeWhile (· == 0)).length

/-- The place and the length of the longest run of zeros, the first one among equals; `at_` is
the place of the first of the pieces. -/
def longestZeros (at_ : Nat) : List Nat → Nat × Nat
  | [] => (at_, 0)
  | p :: rest =>
    let here := leadingZeros (p :: rest)
    let later := longestZeros (at_ + 1) rest
    if later.2 > here then later else (at_, here)

/-- The pieces in hexadecimal digits with colons between them. -/
def hexPieces (pieces : List Nat) : String :=
  ":".intercalate (pieces.map fun p => String.ofList (Nat.toDigits 16 p))

/-- The text of an IPv6 address. Two colons stand for the longest run of at least two zeros. -/
def ipv6Text (pieces : List Nat) : String :=
  let (start, length) := longestZeros 0 pieces
  if length < 2 then hexPieces pieces
  else hexPieces (pieces.take start) ++ "::" ++ hexPieces (pieces.drop (start + length))

def ipv4Text (address : Nat) : String :=
  let byte (n : Nat) := toString (address >>> (8 * n) % 256)
  byte 3 ++ "." ++ byte 2 ++ "." ++ byte 1 ++ "." ++ byte 0

def Host.text : Host → String
  | .name text => text
  | .ipv4 address => ipv4Text address
  | .ipv6 pieces => "[" ++ ipv6Text pieces ++ "]"

-- ---------------------------------------------------------------------------
-- Reading a host
-- ---------------------------------------------------------------------------

def isControl (c : Char) : Bool :=
  c.toNat < 0x20 || c.toNat == 0x7F

/-- Characters that no domain name may hold after its escapes were decoded. -/
def isForbiddenInDomain (c : Char) : Bool :=
  isControl c || " %#/:<>?@[\\]^|".toList.contains c || 0x80 ≤ c.toNat

/-- Characters that no host of another scheme may hold. -/
def isForbiddenInHost (c : Char) : Bool :=
  "\x00\t\n\r #/:<>?@[\\]^|".toList.contains c

/-- Reads an IPv6 address after its opening bracket, or something else. -/
def bracketed? : List Char → Option (Except Fault Host)
  | '[' :: rest =>
    match rest.reverse with
    | ']' :: inside =>
      match ipv6? inside.reverse with
      | some pieces => some (.ok (.ipv6 pieces))
      | none => some (.error .invalidIpv6)
    | _ => some (.error .invalidIpv6)
  | _ => none

/-- Reads a domain name, in small letters and with its escapes decoded, or an address. Names are
ASCII: any other is refused, instead of being mapped to its international form. -/
def domainHost (cs : List Char) : Except Fault Host :=
  match bracketed? cs with
  | some host => host
  | none =>
    match Text.Utf8.decode? (Text.Percent.decode cs) with
    | none => .error .invalidDomainName
    | some decoded =>
      let domain := decoded.map Char.toLower
      if domain.any isForbiddenInDomain then .error .invalidDomainName
      else if domain.isEmpty then .error .emptyHost
      else if endsInNumber domain then
        match ipv4? domain with
        | some address => .ok (.ipv4 address)
        | none => .error .invalidIpv4
      else .ok (.name (String.ofList domain))

/-- Reads a host of a scheme that gives its hosts no meaning. -/
def plainHost (cs : List Char) : Except Fault Host :=
  match bracketed? cs with
  | some host => host
  | none =>
    if cs.any isForbiddenInHost then .error .invalidHostCharacter
    else .ok (.name (String.ofList (Text.Percent.encode isControl cs)))

example : ipv4? "0x7f.1".toList = some 0x7F000001 := by decide +kernel
example : ipv4? "1.2.3.256".toList = none ∧ ipv4? "1.2.3.4.5".toList = none := by decide +kernel
example : (ipv6? "1::2:0:0:3".toList).map ipv6Text = some "1::2:0:0:3" := by decide +kernel
example : ipv6? "::1.2.3.4".toList = some [0, 0, 0, 0, 0, 0, 0x102, 0x304] := by decide +kernel
example : ipv6? "1:2:3:4:5:6:7::8".toList = none ∧ ipv6? ":::".toList = none := by decide +kernel

end RobotWeb.Url
