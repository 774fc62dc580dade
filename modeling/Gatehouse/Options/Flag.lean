import Gatehouse.Config.Basic
import Gatehouse.Decimal.Reading
import Gatehouse.Text.Integer

/-!
# Settings from the command line

Every setting has a flag and a variable of the environment. All flags take a value; what a value has
to look like depends on the setting.
-/

namespace Gatehouse

inductive Flag where
  | config
  | host
  | portNumber
  | logLevel
  | coreUrl
  | coreToken
  | staticToken
  | signingKey
  | sessionLife
  | allowedDevices
  | allowedOrigins
  | trustedProxies
  | storePath
  | rate
  | burst
  | maxConnections
  | maxBody
  | timeout
  | caFile
  | clientCertFile
  | clientKeyFile
  | serverName
  | skipVerify
  | logRequests
  | unscopedPolicy
deriving DecidableEq, Repr

namespace Flag

/-- Every flag, in the order in which the environment is looked at. -/
def all : List Flag :=
  [config, host, portNumber, logLevel, coreUrl, coreToken, staticToken, signingKey, sessionLife,
    allowedDevices, allowedOrigins, trustedProxies, storePath, rate, burst, maxConnections, maxBody,
    timeout, caFile, clientCertFile, clientKeyFile, serverName, skipVerify, logRequests,
    unscopedPolicy]

def words : Flag → List String
  | config => ["config"]
  | host => ["host"]
  | portNumber => ["port"]
  | logLevel => ["log", "level"]
  | coreUrl => ["core", "url"]
  | coreToken => ["core", "token"]
  | staticToken => ["bridge", "token"]
  | signingKey => ["session", "signing", "key"]
  | sessionLife => ["session", "ttl", "seconds"]
  | allowedDevices => ["allowed", "device", "ids"]
  | allowedOrigins => ["cors", "allowed", "origins"]
  | trustedProxies => ["trusted", "proxy", "cidrs"]
  | storePath => ["revocation", "store", "path"]
  | rate => ["rate", "limit", "rps"]
  | burst => ["rate", "limit", "burst"]
  | maxConnections => ["max", "ws", "connections"]
  | maxBody => ["max", "body", "bytes"]
  | timeout => ["timeout"]
  | caFile => ["core", "ca", "file"]
  | clientCertFile => ["core", "client", "cert", "file"]
  | clientKeyFile => ["core", "client", "key", "file"]
  | serverName => ["core", "tls", "server", "name"]
  | skipVerify => ["core", "tls", "insecure", "skip", "verify"]
  | logRequests => ["log", "requests"]
  | unscopedPolicy => ["unscoped", "route", "policy"]

def long (f : Flag) : String :=
  Text.joined "-" f.words

def capitals (s : String) : String :=
  String.ofList (s.toList.map Char.toUpper)

/-- The variable of the environment that a flag is read from. -/
def variableName : Flag → String
  | config => "RELAY_CONFIG_PATH"
  | f => "RELAY_" ++ capitals (Text.joined "_" f.words)

def ofLong? (name : String) : Option Flag :=
  all.find? fun f => f.long = name

end Flag

/-- Why the command line is not understood, or that it asks for help or the version. -/
inductive UsageError where
  | unknownArgument
  | missingValue
  | invalidValue
  | repeated
  | tooManyValues
  | helpAsked
  | versionAsked
deriving DecidableEq, Repr

/-- What a relay is launched with: the settings file, where to listen, how much to log, and what the
command line changes in the settings. -/
structure Launch where
  file : Option String
  host : String
  portNumber : Nat
  logLevel : String
  settings : Config → Config

namespace Launch

def default : Launch :=
  ⟨none, "127.0.0.1", 9797, "info", id⟩

def also (l : Launch) (change : Config → Config) : Launch :=
  { l with settings := fun c => change (l.settings c) }

end Launch

namespace Flag

def truth? (s : String) : Option Bool :=
  let word := Text.lower s
  if ["y", "yes", "t", "true", "on", "1"].contains word then some true
  else if ["n", "no", "f", "false", "off", "0"].contains word then some false
  else none

/-- A number read by `read?`, put where `change` says. -/
def parsed {α : Type} (value : Option α) (l : Launch) (change : α → Config → Config) :
    Except UsageError Launch :=
  match value with
  | some v => .ok (l.also (change v))
  | none => .error .invalidValue

def file (value : String) (l : Launch) (change : Config → Config) : Except UsageError Launch :=
  if value = "" then .error .missingValue else .ok (l.also change)

def take (f : Flag) (value : String) (l : Launch) : Except UsageError Launch :=
  let size := Text.natBelow? 0x10000000000000000 value
  let items := Text.commaItems value
  match f with
  | config => if value = "" then .error .missingValue else .ok { l with file := some value }
  | host => .ok { l with host := value }
  | portNumber =>
    match (Text.int64? value).filter fun n => decide (0 ≤ n ∧ n < 0x10000) with
    | some n => .ok { l with portNumber := n.toNat }
    | none => .error .invalidValue
  | logLevel => .ok { l with logLevel := value }
  | coreUrl => .ok (l.also fun c => { c with coreUrl := value })
  | coreToken => .ok (l.also fun c => { c with coreToken := some value })
  | staticToken => .ok (l.also fun c => { c with staticToken := some value })
  | signingKey => .ok (l.also fun c => { c with signingKey := some value })
  | sessionLife => parsed (Text.int64? value) l fun n c => { c with sessionLife := n }
  | allowedDevices => .ok (l.also fun c => { c with allowedDevices := items })
  | allowedOrigins => .ok (l.also fun c => { c with allowedOrigins := items })
  | trustedProxies => .ok (l.also fun c => { c with trustedProxies := items })
  | storePath => file value l fun c => { c with storePath := some value }
  | rate => parsed (Decimal.read? value) l fun x c => { c with rate := x }
  | burst =>
    parsed ((Text.int64? value).filter fun n => decide (0 ≤ n ∧ n < 0x100000000)) l
      fun n c => { c with burst := n.toNat }
  | maxConnections => parsed size l fun n c => { c with maxConnections := n }
  | maxBody => parsed size l fun n c => { c with maxBody := n }
  | timeout => parsed size l fun n c => { c with timeout := n }
  | caFile => file value l fun c => { c with caFile := some value }
  | clientCertFile => file value l fun c => { c with clientCertFile := some value }
  | clientKeyFile => file value l fun c => { c with clientKeyFile := some value }
  | serverName => .ok (l.also fun c => { c with serverName := some value })
  | skipVerify => parsed (truth? value) l fun b c => { c with skipVerify := b }
  | logRequests => parsed (truth? value) l fun b c => { c with logRequests := b }
  | unscopedPolicy =>
    parsed (UnscopedPolicy.ofText value).toOption l fun p c => { c with unscopedPolicy := p }

end Flag

end Gatehouse
