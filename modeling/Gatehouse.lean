import Gatehouse.Access.Caller
import Gatehouse.Access.Credentials
import Gatehouse.Access.Gate
import Gatehouse.Access.Policy
import Gatehouse.Access.Route
import Gatehouse.Access.Scope
import Gatehouse.Config.Basic
import Gatehouse.Config.Reading
import Gatehouse.Config.Writing
import Gatehouse.Config.Yaml
import Gatehouse.Core.Client
import Gatehouse.Core.Exchange
import Gatehouse.Core.Request
import Gatehouse.Core.Setup
import Gatehouse.Decimal.Layout
import Gatehouse.Decimal.Reading
import Gatehouse.Decimal.Shortest
import Gatehouse.Http.Header
import Gatehouse.Http.Message
import Gatehouse.Http.Origin
import Gatehouse.Http.Upgrade
import Gatehouse.Json.Number
import Gatehouse.Json.Reading
import Gatehouse.Json.Value
import Gatehouse.Json.Writing
import Gatehouse.Json.Written
import Gatehouse.Keyed
import Gatehouse.Limit.Bucket
import Gatehouse.Limit.Connections
import Gatehouse.Limit.Permits
import Gatehouse.Limit.Refill
import Gatehouse.Live.Event
import Gatehouse.Live.Frame
import Gatehouse.Live.Message
import Gatehouse.Live.Poll
import Gatehouse.Live.Pump
import Gatehouse.Live.Serving
import Gatehouse.Live.Session
import Gatehouse.Live.Wish
import Gatehouse.Main
import Gatehouse.Net.Address
import Gatehouse.Net.Forwarded
import Gatehouse.Net.Network
import Gatehouse.Options.Flag
import Gatehouse.Options.Loading
import Gatehouse.Options.Parsing
import Gatehouse.Proofs.Access.Admission
import Gatehouse.Proofs.Access.Credentials
import Gatehouse.Proofs.Access.Gate
import Gatehouse.Proofs.Access.Grammar
import Gatehouse.Proofs.Access.Policy
import Gatehouse.Proofs.Access.Route
import Gatehouse.Proofs.Access.Scope
import Gatehouse.Proofs.Access.Table
import Gatehouse.Proofs.Config.Normalized
import Gatehouse.Proofs.Config.Transport
import Gatehouse.Proofs.Core.Client
import Gatehouse.Proofs.Core.Exchange
import Gatehouse.Proofs.Http.Header
import Gatehouse.Proofs.Http.Origin
import Gatehouse.Proofs.Json.Edges
import Gatehouse.Proofs.Json.Fields
import Gatehouse.Proofs.Json.Leaves
import Gatehouse.Proofs.Json.Padding
import Gatehouse.Proofs.Json.Records
import Gatehouse.Proofs.Json.Steps
import Gatehouse.Proofs.Json.Tree
import Gatehouse.Proofs.Keyed
import Gatehouse.Proofs.Limit.Apart
import Gatehouse.Proofs.Limit.Cap
import Gatehouse.Proofs.Limit.Enforcing
import Gatehouse.Proofs.Live.Command
import Gatehouse.Proofs.Live.Connection
import Gatehouse.Proofs.Live.Feeding
import Gatehouse.Proofs.Live.Inline
import Gatehouse.Proofs.Live.Log
import Gatehouse.Proofs.Live.Order
import Gatehouse.Proofs.Live.Relaying
import Gatehouse.Proofs.Live.Session
import Gatehouse.Proofs.Live.Stream
import Gatehouse.Proofs.Live.Typed
import Gatehouse.Proofs.Net.Network
import Gatehouse.Proofs.Relay.Breaking
import Gatehouse.Proofs.Relay.Correlation
import Gatehouse.Proofs.Relay.Course
import Gatehouse.Proofs.Relay.Failures
import Gatehouse.Proofs.Relay.Forged
import Gatehouse.Proofs.Relay.Forwarding
import Gatehouse.Proofs.Relay.Gated
import Gatehouse.Proofs.Relay.Keys
import Gatehouse.Proofs.Relay.Limits
import Gatehouse.Proofs.Relay.Opening
import Gatehouse.Proofs.Relay.Running
import Gatehouse.Proofs.Relay.Trust
import Gatehouse.Proofs.Revocation.Document
import Gatehouse.Proofs.Revocation.History
import Gatehouse.Proofs.Revocation.Lasting
import Gatehouse.Proofs.Revocation.Ledger
import Gatehouse.Proofs.Revocation.Loading
import Gatehouse.Proofs.Seal.Base64Url
import Gatehouse.Proofs.Session.Claims
import Gatehouse.Proofs.Session.Genuine
import Gatehouse.Proofs.Session.Granting
import Gatehouse.Proofs.Session.Issuing
import Gatehouse.Proofs.Session.Revoking
import Gatehouse.Proofs.Session.Token
import Gatehouse.Proofs.Text.Items
import Gatehouse.Proofs.Text.Split
import Gatehouse.Proofs.Text.Utf8
import Gatehouse.Proofs.Url.Below
import Gatehouse.Proofs.Url.Path
import Gatehouse.Proofs.Url.Percent
import Gatehouse.Proofs.Url.Scheme
import Gatehouse.Relay.Answer
import Gatehouse.Relay.Basic
import Gatehouse.Relay.Counters
import Gatehouse.Relay.Refusal
import Gatehouse.Revocation.Ledger
import Gatehouse.Revocation.Store
import Gatehouse.Seal.Base64Url
import Gatehouse.Seal.Pem
import Gatehouse.Seal.Sha256
import Gatehouse.Session.Claims
import Gatehouse.Session.Desk
import Gatehouse.Session.Token
import Gatehouse.Text.Ascii
import Gatehouse.Text.Blank
import Gatehouse.Text.Charset
import Gatehouse.Text.Hidden
import Gatehouse.Text.Integer
import Gatehouse.Text.Quoted
import Gatehouse.Text.Split
import Gatehouse.Text.Tables
import Gatehouse.Text.Utf8
import Gatehouse.Url.Basic
import Gatehouse.Url.Form
import Gatehouse.Url.Host
import Gatehouse.Url.International
import Gatehouse.Url.Path
import Gatehouse.Url.Percent
import Gatehouse.Url.Punycode
import Gatehouse.Url.SmallLetter
import Gatehouse.World.Basic
import Gatehouse.World.Disk
import Gatehouse.World.Standing
import Gatehouse.World.Watching
import Gatehouse.Yaml.Node
import Gatehouse.Yaml.Place
import Gatehouse.Yaml.Scalar
import Gatehouse.Proofs.Live.Schedule
