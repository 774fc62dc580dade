import Gatehouse.Access.Policy
import Gatehouse.Decimal.Layout
import Gatehouse.Limit.Refill
import Gatehouse.Net.Network
import Gatehouse.Revocation.Store
import Gatehouse.Url.Basic

/-!
# Settings

The settings of a relay, read once when it starts. Normalizing them drops blank texts and puts
defaults in the place of zeros; validating them checks whatever can be checked without touching the
disk or the network.
-/

namespace Gatehouse

structure Config where
  coreUrl : String
  coreToken : Option String
  staticToken : Option String
  signingKey : Option String
  sessionLife : Int
  allowedDevices : List String
  allowedOrigins : List String
  trustedProxies : List String
  storePath : Option String
  rate : Float
  burst : Nat
  maxConnections : Nat
  maxBody : Nat
  timeout : Nat
  caFile : Option String
  clientCertFile : Option String
  clientKeyFile : Option String
  serverName : Option String
  skipVerify : Bool
  logRequests : Bool
  unscopedPolicy : UnscopedPolicy

inductive RateFault where
  | notFinite (rate : Float)
  | outOfRange (rate : Float)
  | noBurst

def RateFault.message : RateFault → String
  | notFinite rate =>
    "rate_limit_rps must be a finite number, got " ++ Decimal.Layout.plain.write rate
  | outOfRange rate =>
    "rate_limit_rps " ++ Decimal.Layout.plain.write rate ++ " is outside the supported range"
  | noBurst => "rate_limit_burst must be at least 1 when rate limiting is enabled"

inductive ConfigError where
  | missingCoreUrl
  | invalidCoreUrl (reason : String)
  | unsupportedScheme
  | partialClientIdentity
  | invalidTrustedProxy (value : String)
  | invalidRateLimit (fault : RateFault)
  | unreadable (what path : String)
  | badMaterial (what : String) (reason : Option String)
  | noClient
  | badStore (e : StoreError)
  | badFile (path : String)

/-- The text of an error, as far as it does not depend on the system. -/
def ConfigError.message? : ConfigError → Option String
  | missingCoreUrl => some "core base url is required"
  | invalidCoreUrl reason => some ("invalid core base url: " ++ reason)
  | unsupportedScheme => some "core base url must use http or https"
  | partialClientIdentity =>
    some "both core client cert and key files must be provided together"
  | invalidTrustedProxy value =>
    some ("invalid trusted proxy cidr " ++ Text.quoted value ++ ": invalid IP address syntax")
  | invalidRateLimit fault => some ("invalid rate limit: " ++ fault.message)
  | _ => none

namespace Config

def defaultMaxConnections : Nat := 100

def defaultMaxBody : Nat := 0x100000

def default : Config where
  coreUrl := "http://127.0.0.1:8787"
  coreToken := none
  staticToken := none
  signingKey := none
  sessionLife := 900
  allowedDevices := []
  allowedOrigins := []
  trustedProxies := []
  storePath := none
  rate := 0
  burst := 20
  maxConnections := defaultMaxConnections
  maxBody := defaultMaxBody
  timeout := 30
  caFile := none
  clientCertFile := none
  clientKeyFile := none
  serverName := none
  skipVerify := false
  logRequests := true
  unscopedPolicy := .deny

/-- Blank texts dropped, zeros replaced by defaults, and a session of at least a minute. -/
def normalized (c : Config) : Config :=
  { c with
    coreToken := c.coreToken.bind Text.nonBlank?
    staticToken := c.staticToken.bind Text.nonBlank?
    signingKey := c.signingKey.bind Text.nonBlank?
    serverName := c.serverName.bind Text.nonBlank?
    timeout := if c.timeout = 0 then 30 else c.timeout
    sessionLife := max 60 (if c.sessionLife ≤ 0 then 900 else c.sessionLife)
    maxConnections := if c.maxConnections = 0 then defaultMaxConnections else c.maxConnections
    maxBody := if c.maxBody = 0 then defaultMaxBody else c.maxBody
    allowedDevices := Text.trimmedItems c.allowedDevices
    allowedOrigins := Text.trimmedItems c.allowedOrigins
    trustedProxies := Text.trimmedItems c.trustedProxies }

def proxyNetworks (c : Config) : Except ConfigError (List Network) :=
  c.trustedProxies.mapM fun item =>
    match Network.ofText? item with
    | some n => .ok n
    | none => .error (.invalidTrustedProxy item)

def checkRate (c : Config) : Except ConfigError Unit :=
  if !c.rate.isFinite then .error (.invalidRateLimit (.notFinite c.rate))
  else if c.rate ≤ 0 then .ok ()
  else if (Limit.period? c.rate).isNone then .error (.invalidRateLimit (.outOfRange c.rate))
  else if c.burst = 0 then .error (.invalidRateLimit .noBurst)
  else .ok ()

def coreAddress [CharTables] (c : Config) : Except ConfigError Url :=
  if Text.trim c.coreUrl = "" then .error .missingCoreUrl
  else
    match Url.ofText? (Text.trim c.coreUrl) with
    | .error e => .error (.invalidCoreUrl e.message)
    | .ok u => if u.scheme = "http" ∨ u.scheme = "https" then .ok u else .error .unsupportedScheme

/-- The URL of the core, if all that can be checked is right. -/
def validate [CharTables] (c : Config) : Except ConfigError Url := do
  let u ← c.coreAddress
  if c.clientCertFile.isSome ≠ c.clientKeyFile.isSome then throw .partialClientIdentity
  let _ ← c.proxyNetworks
  c.checkRate
  return u

/-- Whether every caller is admitted. -/
def isOpen (c : Config) : Bool :=
  c.staticToken.isNone && c.signingKey.isNone

def callTimeout (c : Config) : Nat :=
  max c.timeout 1

/-- Whether the core is reached over TLS, told from the text of its URL. -/
def usesTls (c : Config) : Bool :=
  (Text.after? "https://" (Text.lower (Text.trim c.coreUrl))).isSome

end Config

end Gatehouse
