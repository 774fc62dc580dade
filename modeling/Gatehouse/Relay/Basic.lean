import Gatehouse.Config.Basic
import Gatehouse.Core.Setup
import Gatehouse.Http.Origin
import Gatehouse.Limit.Bucket
import Gatehouse.Limit.Connections
import Gatehouse.Net.Forwarded
import Gatehouse.Relay.Counters
import Gatehouse.Session.Desk

/-!
# The relay

What a relay is set up with, what it carries from request to request, and how it starts. Nothing of
it reads a clock or makes up an id: both come with every request.
-/

namespace Gatehouse

/-- What a relay is set up with. -/
structure Relay where
  config : Config
  gate : Gate
  desk : Desk
  client : Core.Client
  origins : OriginPolicy
  proxies : Proxies
  quota : Option Limit.Quota

namespace Relay

structure State where
  store : Store
  buckets : Limit.Buckets
  connections : Connections
  counters : Counters

/-- The moment of a request: the seconds of the calendar, the nanoseconds of a clock that never goes
back, and ids that nobody has had yet. -/
structure Moment where
  now : Int
  clock : Nat
  requestId : String
  sessionId : String

/-- The signer of a relay: the signing key, or else the static token. -/
def signer (c : Config) : Signer :=
  .ofKey (c.signingKey.or c.staticToken) c.sessionLife

def ofConfig [CharTables] (c : Config) (client : Core.Client) (networks : List Network) : Relay where
  config := c
  gate := .of c.staticToken (signer c) c.allowedDevices
  desk := ⟨signer c, c.allowedDevices⟩
  client
  origins := .ofEntries c.allowedOrigins
  proxies := ⟨networks⟩
  quota := Limit.Quota.ofRate? c.rate c.burst

def loadStore (s : Core.Surroundings) (c : Config) (now : Int) : Except ConfigError Store :=
  match c.storePath with
  | none => .ok .inMemory
  | some path =>
    match Store.load path (s.read path) now with
    | .ok store => .ok store
    | .error e => .error (.badStore e)

def start [CharTables] (s : Core.Surroundings) (c : Config) (now : Int) :
    Except ConfigError (Relay × State) := do
  let c := c.normalized
  let networks ← c.proxyNetworks
  let client ← Core.Client.ofConfig s c
  let store ← loadStore s c now
  return (ofConfig c client networks, ⟨store, [], .ofMax c.maxConnections, .zero⟩)

namespace State

def bump (st : State) (counter : Counter) : State :=
  { st with counters := st.counters.bump counter }

def bumpIf (st : State) (counter : Counter) (condition : Bool) : State :=
  { st with counters := st.counters.bumpIf counter condition }

def metrics (st : State) : String :=
  st.counters.text (toString st.connections.gauge)

end State

end Relay

end Gatehouse
