import RobotWeb.Url.Host

/-!
# URLs

The parts of a URL and its text. A path is either a list of segments, each written after a slash,
or a flat text, which no relative reference can be resolved against.
-/

namespace RobotWeb

/-- Who and where: credentials, a host and a port. The parts are stored as they are written; a
port is only stored if it is not the default of the scheme. -/
structure Url.Authority where
  username : String := ""
  password : Option String := none
  host : Url.Host
  port : Option Nat := none
  deriving DecidableEq, Repr

/-- The path of a URL. -/
inductive Url.Path where
  | segments (list : List String)
  | flat (text : String)
  deriving DecidableEq, Repr

/-- The parts of a URL. -/
structure Url where
  scheme : String
  authority : Option Url.Authority
  path : Url.Path
  query : Option String
  fragment : Option String
  deriving DecidableEq, Repr

namespace Url

/-- How a scheme is parsed: schemes of the web always have a host, and file URLs have drive
letters. -/
inductive SchemeKind where
  | web
  | file
  | other
  deriving DecidableEq, Repr

def defaultPort? (scheme : String) : Option Nat :=
  match scheme with
  | "http" | "ws" => some 80
  | "https" | "wss" => some 443
  | "ftp" => some 21
  | _ => none

/-- The kind of a scheme; the schemes of the web are those with a default port. -/
def SchemeKind.ofScheme (scheme : String) : SchemeKind :=
  if (defaultPort? scheme).isSome then .web
  else if scheme = "file" then .file
  else .other

def SchemeKind.isSpecial : SchemeKind → Bool
  | .web | .file => true
  | .other => false

def kind (u : Url) : SchemeKind :=
  .ofScheme u.scheme

def effectivePort? (u : Url) : Option Nat :=
  (u.authority.bind (·.port)).or (defaultPort? u.scheme)

-- ---------------------------------------------------------------------------
-- Text of a URL
-- ---------------------------------------------------------------------------

/-- The credentials with the sign that ends them. -/
def Authority.credentials (a : Authority) : String :=
  match a.password with
  | some password => a.username ++ ":" ++ password ++ "@"
  | none => if a.username = "" then "" else a.username ++ "@"

def Authority.text (a : Authority) : String :=
  a.credentials ++ a.host.text ++
    (match a.port with
    | some port => ":" ++ toString port
    | none => "")

def Path.text : Path → String
  | .segments list => String.join (list.map ("/" ++ ·))
  | .flat text => text

/-- Whether the text of the path starts with two slashes. -/
def Path.startsLikeAuthority : Path → Bool
  | .segments ("" :: _ :: _) => true
  | _ => false

/-- The text between the scheme and the path. Without an authority, a dot keeps two slashes at the
start of the path from being read as one. -/
def beforePath (u : Url) : String :=
  match u.authority with
  | some a => "//" ++ a.text
  | none => if u.path.startsLikeAuthority then "/." else ""

def text (u : Url) : String :=
  let after (mark : String) : Option String → String
    | some part => mark ++ part
    | none => ""
  u.scheme ++ ":" ++ u.beforePath ++ u.path.text ++ after "?" u.query ++ after "#" u.fragment

instance : ToString Url := ⟨text⟩

end Url

end RobotWeb
