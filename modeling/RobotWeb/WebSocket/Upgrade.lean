import RobotWeb.Text.Blank
import RobotWeb.Text.Split
import RobotWeb.WebSocket.Transport

/-!
# Opening sockets

A socket begins with a request to upgrade the connection. The request names the sub-protocol that is
to be spoken and carries the client's credentials and cookies, and the controller has to accept that
very sub-protocol.
-/

namespace RobotWeb.WebSocket

open RobotWeb.Stream (Locator StreamConnector TransportError)

/-- A request to upgrade a connection. -/
structure Handshake where
  url : Url
  protocol : String
  authorization : String
  cookie : Option String
  deriving DecidableEq, Repr

/-- What comes of a handshake: the connection that was upgraded and the sub-protocol that the
controller names, or the reason why there is none. -/
inductive Upgrade where
  | accepted (protocol? : Option String) (connection : Connection)
  | refused (reason : String)

/-- Where handshakes are sent: the outcomes of those to come and the handshakes so far, the first
one first. -/
structure Gateway where
  outcomes : List Upgrade := []
  handshakes : List Handshake := []

/-- Whether a text may be the value of a header: printable ASCII characters and tabs. -/
def isHeaderValue (text : String) : Bool :=
  text.toList.all fun c => c == '\t' || (0x20 ≤ c.toNat && c.toNat < 0x7F)

def handshake (client : Http.Client) (locator : Locator) (options : Stream.Options) : Handshake :=
  ⟨locator.url, options.protocol, client.authorization, client.cookieHeader?⟩

/-- Whether every header of the handshake can be sent. -/
def Handshake.isSendable (h : Handshake) : Bool :=
  isHeaderValue h.protocol && isHeaderValue h.authorization && h.cookie.all isHeaderValue

/-- The sub-protocols that the handshake offers: names with commas between them. -/
def Handshake.offers (h : Handshake) : List String :=
  (Text.splitOn ',' h.protocol.toList).map fun name => Text.trim (String.ofList name)

/-- The socket of an upgraded connection, if the controller names a sub-protocol that was offered.
-/
def Handshake.judge (h : Handshake) : Upgrade → Except String Socket
  | .refused reason => .error reason
  | .accepted protocol? connection =>
    if protocol?.any h.offers.contains then .ok { connection }
    else .error "the requested sub-protocol was not accepted"

namespace Gateway

/-- Sends a handshake. Without an outcome the controller cannot be reached. -/
def exchange (g : Gateway) (h : Handshake) : Upgrade × Gateway :=
  match g.outcomes with
  | [] => (.refused Http.Network.unreachable, { g with handshakes := g.handshakes ++ [h] })
  | outcome :: rest => (outcome, ⟨rest, g.handshakes ++ [h]⟩)

/-- The outcome of opening a stream and the gateway after it. A handshake that cannot be sent is
not sent. -/
def upgrade (g : Gateway) (h : Handshake) : Except String Socket × Gateway :=
  if h.isSendable then
    let (outcome, g) := g.exchange h
    (h.judge outcome, g)
  else (.error "invalid header value", g)

end Gateway

instance : StreamConnector Gateway Socket where
  connect g client locator options :=
    match g.upgrade (handshake client locator options) with
    | (.ok socket, g) => (.ok socket, g)
    | (.error message, g) => (.error (.connect locator.url.text message), g)

end RobotWeb.WebSocket
