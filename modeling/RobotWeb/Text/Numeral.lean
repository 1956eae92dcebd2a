/-!
# Decimal numerals

Reading of integers written with an optional sign and ASCII digits, bounded by the width of the
number that is read. A value outside the range is refused, never wrapped.
-/

namespace RobotWeb.Text

def digitValue? (c : Char) : Option Nat :=
  if '0' ≤ c ∧ c ≤ '9' then some (c.toNat - '0'.toNat) else none

/-- The value of the digits `cs` written after digits of value `high`. -/
def digitsFrom? (high : Nat) : List Char → Option Nat
  | [] => some high
  | c :: cs => (digitValue? c).bind fun d => digitsFrom? (10 * high + d) cs

def digits? : List Char → Option Nat
  | [] => none
  | c :: cs => digitsFrom? 0 (c :: cs)

/-- A number below `bound`: an optional plus sign and one or more digits. -/
def unsigned? (bound : Nat) (s : String) : Option Nat :=
  let digits := match s.toList with
    | '+' :: cs => cs
    | cs => cs
  (digits? digits).filter (· < bound)

def fitsInt32 (n : Int) : Bool :=
  Int32.minValue.toInt ≤ n && n ≤ Int32.maxValue.toInt

/-- An integer of 32 bits: an optional sign and one or more digits. -/
def signed32? (s : String) : Option Int :=
  let n? := match s.toList with
    | '-' :: cs => (digits? cs).map fun n => -Int.ofNat n
    | '+' :: cs => (digits? cs).map Int.ofNat
    | cs => (digits? cs).map Int.ofNat
  n?.filter fitsInt32

/-- The value of a hexadecimal digit of either case. -/
def hexValue? (c : Char) : Option Nat :=
  if '0' ≤ c ∧ c ≤ '9' then some (c.toNat - '0'.toNat)
  else if 'a' ≤ c ∧ c ≤ 'f' then some (c.toNat - 'a'.toNat + 10)
  else if 'A' ≤ c ∧ c ≤ 'F' then some (c.toNat - 'A'.toNat + 10)
  else none

/-- The value of one or more digits of the given base, at most sixteen. -/
def numeral? (base : Nat) (cs : List Char) : Option Nat :=
  if cs.isEmpty then none
  else cs.foldl (fun value? c =>
    value?.bind fun value => ((hexValue? c).filter (· < base)).map (base * value + ·)) (some 0)

/-- Whether the text is empty or an exponent: a letter, an optional sign and one or more digits. -/
def isExponent : List Char → Bool
  | [] => true
  | mark :: cs =>
    let digits := match cs with
      | '+' :: rest => rest
      | '-' :: rest => rest
      | rest => rest
    (mark == 'e' || mark == 'E') && (digits? digits).isSome

/-- Whether the text is a decimal fraction without a sign: digits with at most one point among them
or at either end, and an optional exponent. -/
def isFraction (cs : List Char) : Bool :=
  let whole := cs.takeWhile Char.isDigit
  let (part, rest) := match cs.dropWhile Char.isDigit with
    | '.' :: more => (more.takeWhile Char.isDigit, more.dropWhile Char.isDigit)
    | rest => ([], rest)
  (!whole.isEmpty || !part.isEmpty) && isExponent rest

/-- The hexadecimal digit, in upper case, of a value below sixteen. -/
def hexDigit (n : Nat) : Char :=
  if n < 10 then Char.ofNat ('0'.toNat + n) else Char.ofNat ('A'.toNat + (n - 10))

example : unsigned? (2 ^ 32) "+4294967295" = some 4294967295 := by decide +kernel
example : unsigned? (2 ^ 32) "4294967296" = none := by decide +kernel
example : unsigned? (2 ^ 32) "-0" = none ∧ unsigned? (2 ^ 32) "+" = none := by decide +kernel
example : ["1", "1.", ".5", "2.50e-3", "7E+1"].all (isFraction ·.toList) = true := by decide +kernel
example : ["", ".", "e5", "1e", "1.2.3"].any (isFraction ·.toList) = false := by decide +kernel
example : signed32? "-2147483648" = some (-2147483648) ∧ signed32? "2147483648" = none := by
  decide +kernel

end RobotWeb.Text
