import RobotWeb.Url.Host

/-!
# Escaping in URLs

The characters that are percent-encoded in the parts of a URL. Each part has its own set.
-/

namespace RobotWeb.Url

def isReservedInFragment (c : Char) : Bool :=
  isControl c || " \"<>\x60".toList.contains c

def isReservedInPath (c : Char) : Bool :=
  isReservedInFragment c || "#?\x7b\x7d".toList.contains c

def isReservedInCredentials (c : Char) : Bool :=
  isReservedInPath c || "/:;=@[\\]^|".toList.contains c

/-- Escaped in queries; special schemes escape the apostrophe as well. -/
def isReservedInQuery (special : Bool) (c : Char) : Bool :=
  isControl c || " \"#<>".toList.contains c || (special && c == '\'')

/-- The text with its reserved characters escaped. -/
def escaped (reserved : Char → Bool) (cs : List Char) : String :=
  String.ofList (Text.Percent.encode reserved cs)

end RobotWeb.Url
