import RobotWeb.Stream.Session

/-!
# Building sessions

Collects resources into a subscription and a router that agree with each other.
-/

namespace RobotWeb.Stream

/-- The resources of a session to be, and its options. -/
structure Builder where
  subscription : Subscription := {}
  router : Router := {}
  options : Options := {}

namespace Builder

/-- Subscribes to a resource and routes its events. -/
def subscribe (b : Builder) (r : Resource) (priority : Priority) : Builder :=
  { b with
    subscription := b.subscription.addResource r priority
    router := b.router.register r }

variable {κ τ : Type} [FrameTransport τ] [StreamConnector κ τ]

/-- Starts a session for the collected resources. -/
def start (b : Builder) (client : Http.Client) (connector : κ) :
    Except SessionError Unit × Session κ τ :=
  let session : Session κ τ := { client, router := b.router, connector, options := b.options }
  session.start b.subscription

end Builder

end RobotWeb.Stream
