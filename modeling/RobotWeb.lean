import RobotWeb.ApiError
import RobotWeb.Controller.Call
import RobotWeb.Controller.Configuration
import RobotWeb.Controller.Panel
import RobotWeb.Controller.Program
import RobotWeb.Controller.Restart
import RobotWeb.Controller.ReturnCode
import RobotWeb.Controller.State
import RobotWeb.Duration
import RobotWeb.Event.Basic
import RobotWeb.Event.Decode
import RobotWeb.Event.Fragment
import RobotWeb.Http.Client
import RobotWeb.Http.CookieJar
import RobotWeb.Http.Error
import RobotWeb.Http.Method
import RobotWeb.Http.Network
import RobotWeb.Http.Options
import RobotWeb.Json.Codec
import RobotWeb.Json.Controller
import RobotWeb.Json.Event
import RobotWeb.Json.Member
import RobotWeb.Json.Options
import RobotWeb.Json.Text
import RobotWeb.Json.Value
import RobotWeb.Log.Filter
import RobotWeb.Log.Record
import RobotWeb.Log.Setup
import RobotWeb.Markup.Declaration
import RobotWeb.Markup.Doctype
import RobotWeb.Markup.Document
import RobotWeb.Markup.Element
import RobotWeb.Markup.Malformed
import RobotWeb.Markup.Name
import RobotWeb.Markup.Reading
import RobotWeb.Markup.Reference
import RobotWeb.Markup.Scope
import RobotWeb.Markup.Search
import RobotWeb.Markup.Tag
import RobotWeb.Markup.Token
import RobotWeb.Mastership.Arbiter
import RobotWeb.Mastership.Domain
import RobotWeb.Mastership.Error
import RobotWeb.Mastership.StandIn
import RobotWeb.Page
import RobotWeb.Proofs.Controller.Location
import RobotWeb.Proofs.Controller.Operation
import RobotWeb.Proofs.Controller.ReturnCode
import RobotWeb.Proofs.Event.Delivery
import RobotWeb.Proofs.Event.Link
import RobotWeb.Proofs.Event.Rendering
import RobotWeb.Proofs.Http.Authorization
import RobotWeb.Proofs.Http.Clones
import RobotWeb.Proofs.Http.Cookies
import RobotWeb.Proofs.Http.Exchanges
import RobotWeb.Proofs.Http.HostUrl
import RobotWeb.Proofs.Http.LastAnswer
import RobotWeb.Proofs.Http.Request
import RobotWeb.Proofs.Http.Retry
import RobotWeb.Proofs.Json.Codec
import RobotWeb.Proofs.Json.Stored
import RobotWeb.Proofs.Json.Text
import RobotWeb.Proofs.Json.Token
import RobotWeb.Proofs.Log.Setup
import RobotWeb.Proofs.Markup.Document
import RobotWeb.Proofs.Markup.Order
import RobotWeb.Proofs.Markup.Search
import RobotWeb.Proofs.Mastership.Calls
import RobotWeb.Proofs.Mastership.Exclusion
import RobotWeb.Proofs.Mastership.Independence
import RobotWeb.Proofs.Mastership.Ledger
import RobotWeb.Proofs.Mastership.Nesting
import RobotWeb.Proofs.Mastership.Places
import RobotWeb.Proofs.Mastership.Program
import RobotWeb.Proofs.Mastership.Threads
import RobotWeb.Proofs.Page.Field
import RobotWeb.Proofs.Resource.Uri
import RobotWeb.Proofs.Session.Account
import RobotWeb.Proofs.Session.Call
import RobotWeb.Proofs.Session.CloseRequest
import RobotWeb.Proofs.Session.Failure
import RobotWeb.Proofs.Session.Life
import RobotWeb.Proofs.Session.Phases
import RobotWeb.Proofs.Session.Reader
import RobotWeb.Proofs.Session.Registration
import RobotWeb.Proofs.Session.Running
import RobotWeb.Proofs.Session.SocketReads
import RobotWeb.Proofs.Session.Standing
import RobotWeb.Proofs.Session.Step
import RobotWeb.Proofs.Session.Validation
import RobotWeb.Proofs.Stream.Acceptance
import RobotWeb.Proofs.Stream.Addressing
import RobotWeb.Proofs.Stream.Atomicity
import RobotWeb.Proofs.Stream.Fragments
import RobotWeb.Proofs.Stream.Message
import RobotWeb.Proofs.Stream.Precedence
import RobotWeb.Proofs.Stream.Routing
import RobotWeb.Proofs.Stream.Walk
import RobotWeb.Proofs.Subscription.Body
import RobotWeb.Proofs.Text.Base64
import RobotWeb.Proofs.Text.Form
import RobotWeb.Proofs.Text.Numeral
import RobotWeb.Proofs.Text.Split
import RobotWeb.Proofs.Text.Trim
import RobotWeb.Proofs.Text.Utf8
import RobotWeb.Proofs.Url.Authority
import RobotWeb.Proofs.Url.Path
import RobotWeb.Proofs.WebSocket.Backlog
import RobotWeb.Proofs.WebSocket.Frames
import RobotWeb.Proofs.WebSocket.Uses
import RobotWeb.ProtocolError
import RobotWeb.Resource
import RobotWeb.Stream.Builder
import RobotWeb.Stream.Error
import RobotWeb.Stream.Frame
import RobotWeb.Stream.ParsedFrame
import RobotWeb.Stream.Router
import RobotWeb.Stream.Session
import RobotWeb.Stream.Tape
import RobotWeb.Stream.Transport
import RobotWeb.Subscription
import RobotWeb.Text.Alphanumeric
import RobotWeb.Text.Base64
import RobotWeb.Text.Blank
import RobotWeb.Text.Form
import RobotWeb.Text.Hex
import RobotWeb.Text.Numeral
import RobotWeb.Text.Pattern
import RobotWeb.Text.Percent
import RobotWeb.Text.Split
import RobotWeb.Text.Utf8
import RobotWeb.Url.Basic
import RobotWeb.Url.Escape
import RobotWeb.Url.Host
import RobotWeb.Url.Parser
import RobotWeb.Url.Trail
import RobotWeb.ValidationError
import RobotWeb.WebSocket.Connection
import RobotWeb.WebSocket.Frame
import RobotWeb.WebSocket.Message
import RobotWeb.WebSocket.Socket
import RobotWeb.WebSocket.Transport
import RobotWeb.WebSocket.Upgrade
