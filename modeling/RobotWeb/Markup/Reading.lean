import RobotWeb.Markup.Token

/-!
# Readers

Readers that take something from the front of a source: runs of characters, white space, and
everything up to a given token.
-/

namespace RobotWeb.Markup

namespace Source

/-- Reads the longest run of characters that satisfy `p`; `taken` holds those read before, latest
first. -/
def takeFrom (p : Char → Bool) {whole : Source} (taken : List Char) (s : Remainder whole) :
    List Char × Remainder whole :=
  match s.val.token with
  | .ok (.char c, rest) =>
    if p c then takeFrom p (c :: taken) (s.andThen rest).weaken else (taken.reverse, s)
  | _ => (taken.reverse, s)
termination_by s.val.chars.length
decreasing_by exact rest.property

/-- Reads the longest run of characters that satisfy `p`. -/
def take (p : Char → Bool) (s : Source) : List Char × Remainder s :=
  takeFrom p [] (.all s)

def skipSpace (s : Source) : Remainder s :=
  (s.take isSpace).2

def startsWithSpace (s : Source) : Bool :=
  match s.token with
  | .ok (t, _) => t.isSpace
  | .error _ => false

/-- Reads up to the token `stop`; `before` holds the characters in front of it, latest first. -/
def upToFrom (stop : Token) {whole : Source} (before : List Char) (s : Remainder whole) :
    Reading (List Char) whole :=
  match s.val.token with
  | .error e => .error e
  | .ok (t, rest) =>
    if t = stop then .ok (before.reverse, s.andThen rest)
    else upToFrom stop (t.chars.reverse ++ before) (s.andThen rest).weaken
termination_by s.val.chars.length
decreasing_by exact rest.property

/-- Reads up to the token `stop`, for the characters in front of it. -/
def upTo (stop : Token) (s : Source) : Reading (List Char) s :=
  upToFrom stop [] (.all s)

end Source

end RobotWeb.Markup
