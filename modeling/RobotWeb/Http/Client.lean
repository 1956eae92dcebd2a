import RobotWeb.Http.CookieJar
import RobotWeb.Http.Network
import RobotWeb.Http.Options
import RobotWeb.Log.Record
import RobotWeb.Text.Base64

/-!
# The client

Requests to one controller. Each request carries the credentials and the cookies that the answers
have set, and a busy answer is retried as often as the options say. All holders of a client share
its cookies.
-/

namespace RobotWeb.Http

/-- A client with its cookies, the network that it sends to, and what it has logged. -/
structure Client where
  options : Options
  jar : CookieJar := {}
  network : Network := {}
  journal : List Log.Record := []

/-- What a client operation gives, and the client after it. -/
abbrev Reply (α : Type) := Except HttpError α × Client

namespace Client

-- ---------------------------------------------------------------------------
-- Parts of requests
-- ---------------------------------------------------------------------------

def note (c : Client) (level : Log.Level) (message : String) : Client :=
  { c with journal := c.journal ++ [⟨level, message⟩] }

/-- Whether the client replaces the usual check of certificates by its own. -/
def replacesVerification (c : Client) : Bool :=
  c.options.acceptsInvalidCertificates

def cookieHeader? (c : Client) : Option String :=
  c.jar.header?

/-- The value of the `Authorization` header for a user. -/
def basicAuthorization (username password : String) : String :=
  let credentials := username ++ ":" ++ password
  "Basic " ++ String.ofList (Text.Base64.encode (Text.Utf8.encode credentials.toList))

def authorization (c : Client) : String :=
  basicAuthorization c.options.username c.options.password

/-- The URL of a path, which may be relative to the base URL. -/
def resolve (c : Client) (path : String) : Except HttpError Url :=
  match c.options.baseUrl.join path with
  | .ok url => .ok url
  | .error fault => .error (.invalidUrl path fault.message)

-- ---------------------------------------------------------------------------
-- Requests
-- ---------------------------------------------------------------------------

/-- Sends a request once. Whatever the status of an answer, its cookies are stored, and they are
stored before its body is read. -/
def attempt (c : Client) (method : Method) (url : Url) (body : Option String) : Reply Answer :=
  let request : Request := ⟨method, url, body, c.authorization, c.cookieHeader?⟩
  match c.network.exchange request with
  | (.error message, network) => (.error (.transport message), { c with network })
  | (.ok answer, network) =>
    let c := { c with network, jar := c.jar.storeAll answer.setCookies }
    match answer.bodyFault? with
    | some message => (.error (.transport message), c)
    | none => (.ok answer, c)

def busy : Nat := 503

def judge (method : Method) (path : String) (accepted : List Nat) (answer : Answer) :
    Except HttpError Answer :=
  if accepted.contains answer.status then .ok answer
  else .error (.status method path answer.status answer.body)

/-- Sends a request to a URL, again after each busy answer as long as `backoff` has entries, and
judges the last answer. -/
def sendTo (c : Client) (method : Method) (url : Url) (path : String) (body : Option String)
    (accepted : List Nat) (backoff : List Duration) : Reply Answer :=
  match c.attempt method url body with
  | (.error e, c) => (.error e, c)
  | (.ok answer, c) =>
    if answer.status = busy then
      match backoff with
      | _ :: rest =>
        sendTo (c.note .warn "controller busy, retrying") method url path body accepted rest
      | [] => (judge method path accepted answer, c)
    else (judge method path accepted answer, c)
termination_by structural backoff

/-- Sends a request and requires one of the accepted statuses. -/
def send (c : Client) (method : Method) (path : String) (body : Option String)
    (accepted : List Nat) : Reply Answer :=
  match c.resolve path with
  | .error e => (.error e, c)
  | .ok url => c.sendTo method url path body accepted c.options.retryBackoff

/-- The statuses of a command that may answer without content. -/
def done : List Nat := [200, 204]

def get (c : Client) (path : String) : Reply Answer :=
  c.send .get path none [200]

def post (c : Client) (path body : String) : Reply Answer :=
  c.send .post path (some body) done

def put (c : Client) (path body : String) : Reply Answer :=
  c.send .put path (some body) done

def delete (c : Client) (path : String) : Reply Answer :=
  c.send .delete path none done

/-- Ends the controller's session and forgets its cookies. -/
def logout (c : Client) : Reply Unit :=
  match c.send .get "/logout" none done with
  | (.ok _, c) => (.ok (), { c with jar := {} })
  | (.error e, c) => (.error e, c)

-- ---------------------------------------------------------------------------
-- Subscription groups
-- ---------------------------------------------------------------------------

/-- A group of subscribed resources that the controller keeps, and where it is streamed. -/
structure Group where
  id : String
  location : String
  deriving DecidableEq, Repr

/-- The path that subscriptions are created under. -/
def subscriptionPath : String := "/subscription"

def groupPath (id : String) : String :=
  subscriptionPath ++ "/" ++ id

/-- The text in front of the group's id in a location. -/
def pollMarker : String := "/poll/"

/-- The id of a group in the location that it is streamed from: what follows the first marker,
without slashes at the end. -/
def groupId? (location : String) : Option String :=
  match Text.after? pollMarker.toList location.toList with
  | none => none
  | some rest =>
    let id := Text.trimEndBy (· == '/') rest
    if id.isEmpty then none else some (String.ofList id)

/-- The failure of an answer that does not name a group. -/
def missingGroup : HttpError :=
  .unreadable "Cannot get subscription group from HTTP response"

def groupOfAnswer (answer : Answer) : Except HttpError Group :=
  match answer.location with
  | none => .error missingGroup
  | some location =>
    match groupId? location with
    | none => .error missingGroup
    | some id => .ok ⟨id, location⟩

/-- Creates a group from the form body of a subscription. -/
def subscribe (c : Client) (body : String) : Reply Group :=
  match c.send .post subscriptionPath (some body) [201] with
  | (.error e, c) => (.error e, c)
  | (.ok answer, c) => (groupOfAnswer answer, c)

def Reply.discard {α : Type} : Reply α → Reply Unit
  | (.ok _, c) => (.ok (), c)
  | (.error e, c) => (.error e, c)

def updateSubscription (c : Client) (id body : String) : Reply Unit :=
  Reply.discard (c.put (groupPath id) body)

def unsubscribe (c : Client) (id : String) : Reply Unit :=
  Reply.discard (c.delete (groupPath id))

def streamScheme? (scheme : String) : Option String :=
  match scheme with
  | "https" => some "wss"
  | "http" => some "ws"
  | _ => none

/-- The URL of the stream at a location, which may be relative to the base URL. -/
def streamUrl (c : Client) (location : String) : Except HttpError Url :=
  match c.resolve location with
  | .error e => .error e
  | .ok url =>
    match streamScheme? url.scheme with
    | some scheme => .ok { url with scheme }
    | none => .error (.invalidUrl url.text ("unsupported scheme '" ++ url.scheme ++ "'"))

end Client

end RobotWeb.Http
