import RobotWeb.Text.Numeral
import RobotWeb.Text.Split

/-!
# Well-formed patterns

Whether a text is a regular expression: characters, escapes, sets in brackets, groups and
repetitions. The tables of the Unicode standard are not at hand, so a pattern has no classes of
letters, digits or blanks, no word boundaries, and does not ignore the case of letters. What a
pattern matches is not looked at.
-/

namespace RobotWeb.Text.Pattern

-- ---------------------------------------------------------------------------
-- Escapes
-- ---------------------------------------------------------------------------

/-- Reads the given number of hexadecimal digits, which have to name a character. -/
def numbered? (count : Nat) (cs : List Char) : Option (Char × List Char) :=
  let digits := cs.take count
  match numeral? 16 digits with
  | some n =>
    if digits.length = count && Nat.isValidChar n then some (Char.ofNat n, cs.drop count) else none
  | none => none

/-- The characters that a letter behind a backslash stands for. -/
def escapedLetters : List (Char × Char) :=
  [('a', '\x07'), ('f', '\x0C'), ('t', '\t'), ('n', '\n'), ('r', '\r'), ('v', '\x0B')]

/-- Whether a backslash takes the meaning from the character: from all marks of ASCII but those
that may get one behind a backslash. -/
def isEscapable (c : Char) : Bool :=
  c.toNat < 0x80 && !c.isAlphanum && c != '<' && c != '>'

/-- Reads an escape after its backslash, for the character that it stands for. -/
def escape? : List Char → Option (Char × List Char)
  | 'x' :: rest => numbered? 2 rest
  | 'u' :: rest => numbered? 4 rest
  | 'U' :: rest => numbered? 8 rest
  | c :: rest =>
    match escapedLetters.find? (·.1 == c) with
    | some (_, stands) => some (stands, rest)
    | none => if isEscapable c then some (c, rest) else none
  | [] => none

-- ---------------------------------------------------------------------------
-- Sets
-- ---------------------------------------------------------------------------

def item? : List Char → Option (Char × List Char)
  | '\\' :: rest => escape? rest
  | c :: rest => some (c, rest)
  | [] => none

/-- What follows the beginning of a set after its bracket: a sign that negates it, and hyphens or a
bracket that stand for themselves. -/
def behindSetStart (cs : List Char) : List Char :=
  let cs := match cs with
    | '^' :: rest => rest
    | cs => cs
  match cs with
  | '-' :: rest => rest.dropWhile (· == '-')
  | ']' :: rest => rest
  | cs => cs

def namedSets : List String :=
  ["alnum", "alpha", "ascii", "blank", "cntrl", "digit", "graph", "lower", "print", "punct",
   "space", "upper", "word", "xdigit"]

/-- What follows a named set after its opening bracket; a sign may negate it. -/
def behindNamedSet? (cs : List Char) : Option (List Char) :=
  let name := match cs with
    | ':' :: '^' :: rest => some rest
    | ':' :: rest => some rest
    | _ => none
  name.bind fun rest => namedSets.findSome? fun name => dropMarker? (name ++ ":]").toList rest

/-- What follows `depth` nested sets, the innermost of which has begun. A set holds characters,
ranges from a character to one that is not smaller, other sets, and signs between them. -/
def behindSets? : (fuel : Nat) → (depth : Nat) → List Char → Option (List Char)
  | 0, _, _ => none
  | _, 0, cs => some cs
  | _, _, [] => none
  | fuel + 1, depth + 1, ']' :: rest => behindSets? fuel depth rest
  | fuel + 1, depth, '[' :: rest =>
    match behindNamedSet? rest with
    | some left => behindSets? fuel depth left
    | none => behindSets? fuel (depth + 1) (behindSetStart rest)
  | fuel + 1, depth, '&' :: '&' :: rest => behindSets? fuel depth rest
  | fuel + 1, depth, '-' :: '-' :: rest => behindSets? fuel depth rest
  | fuel + 1, depth, '~' :: '~' :: rest => behindSets? fuel depth rest
  | fuel + 1, depth, cs =>
    match item? cs with
    | none => none
    | some (low, rest) =>
      match rest with
      | '-' :: ']' :: _ => behindSets? fuel depth rest
      | '-' :: '-' :: _ => behindSets? fuel depth rest
      | '-' :: more =>
        match item? more with
        | some (high, left) => if low ≤ high then behindSets? fuel depth left else none
        | none => none
      | rest => behindSets? fuel depth rest

-- ---------------------------------------------------------------------------
-- Groups
-- ---------------------------------------------------------------------------

/-- What follows the name of a group and its closing bracket. -/
def behindGroupName? (cs : List Char) : Option (List Char) :=
  let isNameChar (c : Char) := c.isAlphanum || "_.[]".toList.contains c
  match cs.head?, cs.dropWhile isNameChar with
  | some first, '>' :: rest => if first.isAlpha || first == '_' then some rest else none
  | _, _ => none

/-- Reads the beginning of a group after its parenthesis; tells whether a group is open then,
which is not so where only flags were set. -/
def groupStart? (cs : List Char) : Option (Bool × List Char) :=
  match cs with
  | '?' :: 'P' :: '<' :: rest => (behindGroupName? rest).map (true, ·)
  | '?' :: '<' :: rest => (behindGroupName? rest).map (true, ·)
  | '?' :: ':' :: rest => some (true, rest)
  | '?' :: rest =>
    let flags := rest.takeWhile ("msUuxR-".toList.contains ·)
    if flags.isEmpty || flags.getLast? == some '-' || 1 < flags.count '-' then none
    else
      match rest.drop flags.length with
      | ':' :: left => some (true, left)
      | ')' :: left => some (false, left)
      | _ => none
  | cs => some (true, cs)

-- ---------------------------------------------------------------------------
-- Patterns
-- ---------------------------------------------------------------------------

/-- Whether the rest of a pattern is well-formed: `groups` are open, and `repeatable` tells whether
something stands in front that can be repeated. -/
def isRest : (fuel groups : Nat) → (repeatable : Bool) → List Char → Bool
  | _, groups, _, [] => groups == 0
  | 0, _, _, _ => false
  | fuel + 1, groups, repeatable, c :: cs =>
    match c with
    | '(' =>
      match groupStart? cs with
      | some (opens, rest) => isRest fuel (if opens then groups + 1 else groups) false rest
      | none => false
    | ')' => 0 < groups && isRest fuel (groups - 1) true cs
    | '|' => isRest fuel groups false cs
    | '*' | '+' | '?' => repeatable && isRest fuel groups true cs
    | '{' => false
    | '[' =>
      match behindSets? (cs.length + 1) 1 (behindSetStart cs) with
      | some rest => isRest fuel groups true rest
      | none => false
    | '\\' =>
      match cs with
      | 'A' :: rest => isRest fuel groups true rest
      | 'z' :: rest => isRest fuel groups true rest
      | cs =>
        match escape? cs with
        | some (_, rest) => isRest fuel groups true rest
        | none => false
    | _ => isRest fuel groups true cs

/-- Whether the text is a well-formed pattern. Braces, which would repeat something a number of
times, are not taken. -/
def isWellFormed (cs : List Char) : Bool :=
  isRest cs.length 0 false cs

example : ["", "a.*b", "(a|b)+?", "[^]a-z]", "\\.\\x41", "(?:a)", "[[:alpha:]-]"].all
    (isWellFormed ·.toList) = true := by decide +kernel
example : ["*", "(", ")", "[a", "[z-a]", "a\x7b2", "\\b", "\\w", "(?=a)", "a|+"].any
    (isWellFormed ·.toList) = false := by decide +kernel

end RobotWeb.Text.Pattern
