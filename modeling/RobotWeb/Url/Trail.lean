import RobotWeb.Url.Basic
import RobotWeb.Url.Escape

/-!
# Paths under construction

A path is read piece by piece. A piece for the parent place takes the last segment away, unless
that is a drive letter: drives stay in the paths of all schemes, and file URLs write the drive that
a path starts with in one way.
-/

namespace RobotWeb.Url

/-- Whether the piece is `.`, in which the dot may be escaped. -/
def isHere (piece : List Char) : Bool :=
  [".", "%2e"].contains (String.ofList (piece.map Char.toLower))

/-- Whether the piece is `..`, in which the dots may be escaped. -/
def isParent (piece : List Char) : Bool :=
  ["..", ".%2e", "%2e.", "%2e%2e"].contains (String.ofList (piece.map Char.toLower))

/-- What follows the drive letter, a letter and a colon or a bar, at the start of the text. -/
def behindDrive? : List Char → Option (List Char)
  | letter :: mark :: rest =>
    if letter.isAlpha && (mark == ':' || mark == '|') then some rest else none
  | _ => none

def isDrive (cs : List Char) : Bool :=
  behindDrive? cs == some []

/-- Whether the segment is a drive letter with a colon. -/
def isWrittenDrive (segment : String) : Bool :=
  isDrive segment.toList && segment.toList.contains ':'

/-- Whether the segment is a drive letter, to which a backslash may add more. -/
def keepsItsPlace (segment : String) : Bool :=
  match behindDrive? segment.toList with
  | some rest => rest.isEmpty || rest.head? == some '\\'
  | none => false

/-- The segments of a path under construction, latest first. The next characters belong to the
first of the list. -/
abbrev Trail := List String

namespace Trail

def root : Trail := [""]

def close : Trail → Trail
  | "" :: before => "" :: before
  | t => "" :: t

def extend (text : String) : Trail → Trail
  | [] => [text]
  | last :: before => (last ++ text) :: before

/-- Empties the last segment. A drive stays in the path of a file. -/
def clear (kind : SchemeKind) : Trail → Trail
  | [] => []
  | last :: before => if kind = .file && isWrittenDrive last then last :: before else "" :: before

def parent (kind : SchemeKind) : Trail → Trail
  | "" :: last :: before => if keepsItsPlace last then "" :: last :: before else "" :: before
  | t => t.clear kind

/-- The trail that a non-empty piece is added to: the drive that is all of a file path is ended
first. -/
def prepare (kind : SchemeKind) (t : Trail) : Trail :=
  match t with
  | [drive] => if kind = .file && isWrittenDrive drive then t.close else t
  | _ => t

/-- Adds the text of a piece; a drive that a file path starts with gets a colon. -/
def addText (kind : SchemeKind) (t : Trail) (piece : List Char) : Trail :=
  if kind = .file && t = root && isDrive piece then [String.ofList (piece.take 1 ++ [':'])]
  else t.extend (escaped isReservedInPath piece)

/-- Adds a piece, which a slash follows unless it is the `last` one. -/
def add (kind : SchemeKind) (t : Trail) (piece : List Char) (last : Bool) : Trail :=
  let t := if piece.isEmpty then t else t.prepare kind
  if isParent piece then if last then t.parent kind else (t.parent kind).close
  else if isHere piece then t.close
  else if last then t.addText kind piece else "" :: t.addText kind piece

def addAll (kind : SchemeKind) (t : Trail) : List (List Char) → Trail
  | [] => t
  | piece :: rest => addAll kind (t.add kind piece rest.isEmpty) rest

/-- The segments of the path that continues the trail with the text. -/
def follow (kind : SchemeKind) (t : Trail) (cs : List Char) : List String :=
  let pieces := Text.splitBy (fun c => c == '/' || (c == '\\' && kind.isSpecial)) cs
  (t.addAll kind pieces).reverse

end Trail

/-- The segments of a file path, which does not start with two slashes. -/
def withoutEmptyStart (segments : List String) : List String :=
  match segments.dropWhile (·.isEmpty) with
  | [] => [""]
  | rest => rest

end RobotWeb.Url
