import RobotWeb.Markup.Reading
import RobotWeb.Text.Numeral

/-!
# References

Entity and character references, written `&name;`. Five entities are predefined, a document type
may define more, and a number after `#` names a character by its code point.
-/

namespace RobotWeb.Markup

/-- What decides how references and characters are read. The first definition of an entity
counts; parameter entities have a percent sign in front of their names. -/
structure Dialect where
  version : Version := .v10
  entities : List (String × String) := []

/-- What a reference stands for: one character, or the replacement text of an entity. -/
inductive Replacement where
  | character (c : Char)
  | entity (text : String)

namespace Dialect

def entity? (d : Dialect) (name : String) : Option String :=
  (d.entities.find? fun definition => definition.1 == name).map (·.2)

/-- Adds a definition unless the entity is already defined. -/
def define (d : Dialect) (name text : String) : Dialect :=
  if (d.entity? name).isSome then d else { d with entities := d.entities ++ [(name, text)] }

/-- The character whose code point the characters after `#` give, which may have a plus sign. -/
def numbered? (d : Dialect) (cs : List Char) : Option Char :=
  let value? := match cs with
    | 'x' :: '+' :: digits => Text.numeral? 16 digits
    | 'x' :: digits => Text.numeral? 16 digits
    | '+' :: digits => Text.numeral? 10 digits
    | digits => Text.numeral? 10 digits
  value?.bind fun n =>
    if (Nat.isValidChar n) && d.version.isChar (Char.ofNat n) then some (Char.ofNat n) else none

/-- What the reference with the given name stands for. -/
def resolve (d : Dialect) (name : String) : Except Malformed Replacement :=
  match name.toList with
  | '#' :: number =>
    match d.numbered? number with
    | some c => .ok (.character c)
    | none => .error (.invalidReference name)
  | _ =>
    match name with
    | "lt" => .ok (.character '<')
    | "gt" => .ok (.character '>')
    | "amp" => .ok (.character '&')
    | "apos" => .ok (.character '\'')
    | "quot" => .ok (.character '"')
    | _ =>
      match d.entity? name with
      | some text => .ok (.entity text)
      | none => .error (.unknownEntity name)

end Dialect

/-- Whether the character may stand in a reference. -/
def isReferenceChar (c : Char) : Bool :=
  isNameChar c || c == '#'

/-- Reads a reference after its ampersand: a name or a number, and a semicolon. -/
def reference (s : Source) : Reading String s :=
  let (body, rest) := s.take isReferenceChar
  let wellFormed := match body with
    | [] => false
    | c :: more => (isNameStart c || c == '#') && !more.contains '#'
  match rest.val.token with
  | .ok (.referenceEnd, left) =>
    if wellFormed then .ok (String.ofList body, rest.andThen left)
    else .error (.invalidReference (String.ofList body))
  | _ => .error (.invalidReference (String.ofList body))

end RobotWeb.Markup
