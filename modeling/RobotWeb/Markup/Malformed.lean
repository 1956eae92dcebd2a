/-!
# Malformed markup

The causes for refusing a document.
-/

namespace RobotWeb.Markup

/-- Why a text is not a well-formed document. -/
inductive Malformed where
  | unexpectedEnd
  | unexpectedCharacter (c : Char)
  | invalidCharacter (c : Char)
  | invalidName (name : String)
  | invalidReference (name : String)
  | unknownEntity (name : String)
  | nestedTooDeep
  | repeatedAttribute (name : String)
  | unboundScope (scope : String)
  | reservedScope (scope : String)
  | mismatchedTag (opened closed : String)
  | misplaced (what : String)
  | invalidDeclaration (value : String)
  | noRoot
  deriving DecidableEq, Repr

def Malformed.message : Malformed → String
  | .unexpectedEnd => "unexpected end of the document"
  | .unexpectedCharacter c => "unexpected character '" ++ c.toString ++ "'"
  | .invalidCharacter c => "invalid character with code point " ++ toString c.toNat
  | .invalidName name => "'" ++ name ++ "' is not a name"
  | .invalidReference name => "'" ++ name ++ "' is not a reference"
  | .unknownEntity name => "entity '" ++ name ++ "' is not defined"
  | .nestedTooDeep => "entities are nested too deep"
  | .repeatedAttribute name => "attribute '" ++ name ++ "' is repeated"
  | .unboundScope scope => "namespace '" ++ scope ++ "' is not declared"
  | .reservedScope scope => "namespace '" ++ scope ++ "' is reserved"
  | .mismatchedTag opened closed => "element '" ++ opened ++ "' is closed by '" ++ closed ++ "'"
  | .misplaced what => what ++ " is not allowed here"
  | .invalidDeclaration value => "declared value '" ++ value ++ "' is not supported"
  | .noRoot => "the document has no element"

end RobotWeb.Markup
