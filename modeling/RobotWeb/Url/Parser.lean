import RobotWeb.Text.Blank
import RobotWeb.Url.Trail

/-!
# Reading URLs

Absolute URLs, and references that are resolved against a base. Leading and trailing blanks and
all tabs and line ends are ignored; the parts that are kept have their reserved characters
percent-encoded.
-/

namespace RobotWeb.Url

-- ---------------------------------------------------------------------------
-- Cutting a reference
-- ---------------------------------------------------------------------------

/-- The characters of a reference that count: blanks around it and tabs and line ends inside it do
not. -/
def significant (text : String) : List Char :=
  (Text.trimBy (·.toNat ≤ 0x20) text.toList).filter fun c => !(c == '\t' || c == '\n' || c == '\r')

/-- A reference without its scheme, cut at its query and its fragment. -/
structure Pieces where
  body : List Char
  query : Option (List Char)
  fragment : Option (List Char)

def afterMark? (mark : Char) (cs : List Char) : Option (List Char) :=
  (Text.splitFirst? mark cs).map (·.2)

/-- Cuts a reference at its first `#` and at the first `?` before it. -/
def Pieces.cut (cs : List Char) : Pieces :=
  let beforeFragment := cs.takeWhile (· != '#')
  ⟨beforeFragment.takeWhile (· != '?'), afterMark? '?' beforeFragment, afterMark? '#' cs⟩

def Pieces.queryText (p : Pieces) (special : Bool) : Option String :=
  p.query.map (escaped (isReservedInQuery special))

def Pieces.fragmentText (p : Pieces) : Option String :=
  p.fragment.map (escaped isReservedInFragment)

/-- The scheme of a reference, in small letters, and what follows its colon. -/
def scheme? (cs : List Char) : Option (String × List Char) :=
  let isSchemeChar (c : Char) := c.isAlphanum || c == '+' || c == '-' || c == '.'
  let name := cs.takeWhile isSchemeChar
  match (name.head?.map Char.isAlpha).getD false, cs.dropWhile isSchemeChar with
  | true, ':' :: rest => some (String.ofList (name.map Char.toLower), rest)
  | _, _ => none

-- ---------------------------------------------------------------------------
-- Authorities
-- ---------------------------------------------------------------------------

/-- The host and what follows it, from its colon on; a colon inside brackets belongs to the
host. -/
def hostAndRest (inBrackets : Bool) : List Char → List Char × List Char
  | [] => ([], [])
  | c :: cs =>
    if c = ':' && !inBrackets then ([], c :: cs)
    else
      let inBrackets := if c = '[' then true else if c = ']' then false else inBrackets
      let (host, rest) := hostAndRest inBrackets cs
      (c :: host, rest)

/-- A port below 65536, unless it is left out or the default of the scheme. -/
def portNumber (scheme : String) (digits : List Char) : Except Fault (Option Nat) :=
  if digits.isEmpty then .ok none
  else
    match Text.digits? digits with
    | none => .error .invalidPort
    | some n =>
      if n < UInt16.size then .ok (if defaultPort? scheme = some n then none else some n)
      else .error .invalidPort

/-- The credentials before the last `@` of an authority. -/
def credentials (cs : List Char) : String × Option String :=
  match Text.splitFirst? ':' cs with
  | none => (escaped isReservedInCredentials cs, none)
  | some (username, password) =>
    (escaped isReservedInCredentials username,
      if password.isEmpty then none else some (escaped isReservedInCredentials password))

/-- Reads the host and the port of an authority, and gives back what follows a backslash in the
place of a port. -/
def hostAndPort (scheme : String) (cs : List Char) :
    Except Fault (Host × Option Nat × List Char) := do
  let (hostChars, rest) := hostAndRest false cs
  if hostChars.isEmpty && (SchemeKind.ofScheme scheme = .web || !rest.isEmpty) then
    throw .emptyHost
  let host ← if (SchemeKind.ofScheme scheme).isSpecial then domainHost hostChars
    else plainHost hostChars
  let port := rest.drop 1
  return (host, ← portNumber scheme (port.takeWhile (· != '\\')), port.dropWhile (· != '\\'))

/-- Reads an authority after its slashes, and gives back the path. `more` tells whether a query or
a fragment follows. -/
def readAuthority (scheme : String) (more : Bool) (cs : List Char) :
    Except Fault (Authority × List Char) := do
  let endsAuthority (c : Char) :=
    c == '/' || (c == '\\' && (SchemeKind.ofScheme scheme).isSpecial)
  let chars := cs.takeWhile (!endsAuthority ·)
  let path := cs.dropWhile (!endsAuthority ·)
  let ((username, password), place) ← match Text.splitLast? '@' chars with
    | none => pure (("", none), chars)
    | some (info, place) =>
      if info.isEmpty && place.isEmpty && (more || !path.isEmpty) then throw .emptyHost
      pure (credentials info, place)
  let (host, port, left) ← hostAndPort scheme place
  if host = .name "" && (username ≠ "" || password.isSome) then throw .emptyHost
  return (⟨username, password, host, port⟩, left ++ path)

-- ---------------------------------------------------------------------------
-- Paths
-- ---------------------------------------------------------------------------

/-- Whether the character is a slash of either kind. -/
def isSlash (c : Char) : Bool :=
  c == '/' || c == '\\'

/-- The segments of the path after an authority. -/
def pathAfterAuthority (kind : SchemeKind) (cs : List Char) : List String :=
  match cs with
  | [] => if kind.isSpecial then [""] else []
  | c :: rest =>
    if c = '/' || (c = '\\' && kind.isSpecial) then Trail.root.follow kind rest
    else Trail.root.follow kind cs

-- ---------------------------------------------------------------------------
-- URLs
-- ---------------------------------------------------------------------------

/-- The URL with the given scheme, authority and segments, and the query and the fragment of the
pieces. -/
def Pieces.url (p : Pieces) (scheme : String) (authority : Option Authority)
    (path : List String) : Url :=
  ⟨scheme, authority, .segments path, p.queryText (SchemeKind.ofScheme scheme).isSpecial,
    p.fragmentText⟩

/-- Reads a URL from its authority on; `cs` is the body of the pieces after the slashes. -/
def Pieces.withAuthority (p : Pieces) (scheme : String) (cs : List Char) : Except Fault Url := do
  let (a, path) ← readAuthority scheme (p.query.isSome || p.fragment.isSome) cs
  return p.url scheme (some a) (pathAfterAuthority (.ofScheme scheme) path)

/-- Resolves a reference that does not name a file and has no scheme of its own against a base
with segments. -/
def Pieces.relativeTo (p : Pieces) (base : Url) (baseSegments : List String) :
    Except Fault Url :=
  let pathUrl (t : Trail) (cs : List Char) :=
    p.url base.scheme base.authority (t.follow base.kind cs)
  match p.body with
  | [] =>
    .ok { base with
      query := if p.query.isSome then p.queryText base.kind.isSpecial else base.query
      fragment := p.fragmentText }
  | '/' :: '/' :: rest => p.withAuthority base.scheme rest
  | c :: rest =>
    if !isSlash c then .ok (pathUrl ("" :: baseSegments.dropLast.reverse) p.body)
    else if rest.head?.any isSlash then
      p.withAuthority base.scheme (p.body.dropWhile isSlash)
    else .ok (pathUrl .root rest)

/-- Whether the path starts with a drive letter as its whole first segment. -/
def startsWithDrive (cs : List Char) : Bool :=
  isDrive (cs.takeWhile (!isSlash ·))

/-- The host of a file URL; the local host is none. -/
def fileHost (cs : List Char) : Except Fault Host := do
  if cs.isEmpty then return .name ""
  let host ← domainHost cs
  return if host = .name "localhost" then .name "" else host

/-- The host and the beginning of the path that a file URL with a rooted path takes from its base:
the drive of the base, or else its host. -/
def rootOfBase (base : Option (Url × List String)) (path : List Char) : Host × Trail :=
  match base with
  | none => (.name "", .root)
  | some (base, segments) =>
    if startsWithDrive path then (.name "", .root)
    else
      match segments.head? with
      | some drive =>
        if isWrittenDrive drive then (.name "", ["", drive])
        else ((base.authority.map (·.host)).getD (.name ""), .root)
      | none => ((base.authority.map (·.host)).getD (.name ""), .root)

def Pieces.fileUrl (p : Pieces) (host : Host) (path : List String) : Url :=
  p.url "file" (some ⟨"", none, host, none⟩) (withoutEmptyStart path)

/-- Reads a file URL after two slashes. A drive in the place of the host belongs to the path, and a
path that starts with a drive has no host. -/
def Pieces.fileWithHost (p : Pieces) (cs : List Char) : Except Fault Url := do
  let place := cs.takeWhile (!isSlash ·)
  if isDrive place then return p.fileUrl (.name "") (Trail.root.follow .file cs)
  let path := cs.dropWhile (!isSlash ·)
  match ← fileHost place with
  | .name "" => return p.fileUrl (.name "") (Trail.root.follow .file path)
  | host =>
    let path := pathAfterAuthority .file path
    return p.fileUrl (if path.head?.any isWrittenDrive then .name "" else host) path

/-- Reads a file URL, with the base and its segments if the base is one too. -/
def Pieces.file (p : Pieces) (base : Option (Url × List String)) : Except Fault Url :=
  match p.body, base with
  | [], some (base, _) =>
    .ok { base with
      query := if p.query.isSome then p.queryText true else base.query
      fragment := p.fragmentText }
  | [], none => .ok (p.fileUrl (.name "") [""])
  | c :: rest, _ =>
    if isSlash c then
      if rest.head?.any isSlash then p.fileWithHost (rest.drop 1)
      else
        let (host, t) := rootOfBase base rest
        .ok (p.fileUrl host (t.follow .file rest))
    else
      match base with
      | some (base, segments) =>
        if startsWithDrive p.body then .ok (p.fileUrl (.name "") (Trail.root.follow .file p.body))
        else
          let t := Trail.clear .file segments.reverse
          .ok (p.url "file" base.authority (withoutEmptyStart (t.follow .file p.body)))
      | none => .ok (p.fileUrl (.name "") (Trail.root.follow .file p.body))

def withScheme (base : Option Url) (scheme : String) (rest : List Char) : Except Fault Url :=
  let p := Pieces.cut rest
  let sameScheme := base.filter (·.scheme = scheme)
  let segments? := match sameScheme with
    | some ⟨_, _, .segments list, _, _⟩ => some list
    | _ => none
  match SchemeKind.ofScheme scheme with
  | .web =>
    let slashes := (p.body.takeWhile isSlash).length
    match sameScheme, segments? with
    | some base, some segments =>
      if slashes < 2 then p.relativeTo base segments
      else p.withAuthority scheme (p.body.drop slashes)
    | _, _ => p.withAuthority scheme (p.body.drop slashes)
  | .file => p.file (sameScheme.bind fun base => segments?.map (base, ·))
  | .other =>
    match p.body with
    | '/' :: '/' :: body => p.withAuthority scheme body
    | '/' :: path => .ok (p.url scheme none (Trail.root.follow .other path))
    | path =>
      .ok ⟨scheme, none, .flat (escaped isControl path), p.queryText false, p.fragmentText⟩

/-- Reads a reference; one without a scheme is resolved against the base. A base with a flat path
only takes a fragment. -/
def read (base : Option Url) (text : String) : Except Fault Url :=
  let cs := significant text
  match scheme? cs, base with
  | some (scheme, rest), _ => withScheme base scheme rest
  | none, none => .error .missingBase
  | none, some base =>
    let p := Pieces.cut cs
    match base.path with
    | .flat _ =>
      if cs.head? = some '#' then .ok { base with fragment := p.fragmentText }
      else .error .flatBase
    | .segments list =>
      if base.kind = .file then p.file (some (base, list)) else p.relativeTo base list

def parse (text : String) : Except Fault Url :=
  read none text

def join (base : Url) (reference : String) : Except Fault Url :=
  read (some base) reference

end RobotWeb.Url
