import RobotWeb.Text.Blank
import RobotWeb.Text.Split

/-!
# Cookies

The cookies that the controller has set, each name once and in ascending order. Only the leading
pair of a `Set-Cookie` header counts; its name and its value are trimmed, and a header without a
name changes nothing.
-/

namespace RobotWeb.Http

/-- The name and the value that a `Set-Cookie` header sets. -/
def cookiePair? (header : String) : Option (String × String) :=
  let pair := Text.trimBy Text.isBlank (header.toList.takeWhile (· != ';'))
  match Text.splitFirst? '=' pair with
  | none => none
  | some (name, value) =>
    let name := Text.trimBy Text.isBlank name
    if name.isEmpty then none
    else some (String.ofList name, String.ofList (Text.trimBy Text.isBlank value))

/-- Sets a cookie in a list that is ordered by the names. -/
def putCookie (name value : String) : List (String × String) → List (String × String)
  | [] => [(name, value)]
  | (other, kept) :: rest =>
    if name < other then (name, value) :: (other, kept) :: rest
    else if name = other then (name, value) :: rest
    else (other, kept) :: putCookie name value rest

/-- The stored cookies in ascending order of their names. -/
structure CookieJar where
  cookies : List (String × String) := []
  deriving DecidableEq, Repr

namespace CookieJar

/-- Stores the cookie that one `Set-Cookie` header sets. -/
def store (jar : CookieJar) (header : String) : CookieJar :=
  match cookiePair? header with
  | some (name, value) => ⟨putCookie name value jar.cookies⟩
  | none => jar

/-- Stores the cookies of an answer, the last one of a name being kept. -/
def storeAll (jar : CookieJar) (headers : List String) : CookieJar :=
  headers.foldl store jar

/-- The value of the `Cookie` header; there is none without cookies. -/
def header? (jar : CookieJar) : Option String :=
  if jar.cookies.isEmpty then none
  else some ("; ".intercalate (jar.cookies.map fun (name, value) => name ++ "=" ++ value))

end CookieJar

end RobotWeb.Http
