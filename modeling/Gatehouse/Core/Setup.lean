import Gatehouse.Config.Basic
import Gatehouse.Core.Client
import Gatehouse.Seal.Pem

/-!
# Setting up the client

A client is made from settings once. Files with certificates and keys are read then, and where the
core is to be called by another name than the one in its URL, its address is looked up then, so that
whatever is wrong keeps the relay from starting.
-/

namespace Gatehouse.Core

/-- What a client is set up from besides the settings: files, whether the bytes of a certificate or
a key are one, and why a host name has no address. -/
structure Surroundings where
  read : String → FileContent
  isCertificate : Bytes → Bool
  isKey : Bytes → Bool
  lookupFault : String → Option String

namespace Surroundings

def material (s : Surroundings) (what path : String) : Except ConfigError Bytes :=
  match s.read path with
  | .bytes b => .ok b
  | _ => .error (.unreadable what path)

def authorities (s : Surroundings) (path : String) : Except ConfigError (List Bytes) := do
  let what := "core CA file"
  match Pem.sections? (← s.material what path) with
  | none => throw (.badMaterial what none)
  | some sections =>
    let certificates := sections.filter Pem.Section.isCertificate
    if certificates.isEmpty then throw (.badMaterial what (some "no certificates found"))
    return certificates.map Pem.Section.bytes

/-- The certificates and keys that the relay shows to the core. -/
def identity (s : Surroundings) (certPath keyPath : String) :
    Except ConfigError (List Bytes × List Bytes) := do
  let what := "core client certificate"
  let cert ← s.material what certPath
  let key ← s.material "core client key" keyPath
  match Pem.sections? (cert ++ [0x0A] ++ key) with
  | none => throw (.badMaterial what none)
  | some sections =>
    let certificates := sections.filter Pem.Section.isCertificate
    let keys := sections.filter Pem.Section.isKey
    if certificates.isEmpty || keys.isEmpty then throw (.badMaterial what none)
    return (certificates.map Pem.Section.bytes, keys.map Pem.Section.bytes)

/-- The URL with the name under which the core is called, once its own host has an address. -/
def renamed [CharTables] (s : Surroundings) (u : Url) (name : String) : Except ConfigError Url :=
  match u.host with
  | none => .error (.invalidCoreUrl "missing host")
  | some host =>
    match s.lookupFault host.text with
    | some reason => .error (.invalidCoreUrl reason)
    | none =>
      match u.withHost? name with
      | .ok u => .ok u
      | .error e => .error (.invalidCoreUrl e.message)

end Surroundings

def Client.ofConfig [CharTables] (s : Surroundings) (c : Config) : Except ConfigError Client := do
  let u ← c.validate
  let authorities ← match c.caFile with
    | some path => s.authorities path
    | none => pure []
  let (certificates, keys) ← match c.clientCertFile, c.clientKeyFile with
    | some cert, some key => s.identity cert key
    | _, _ => pure ([], [])
  let base ← match c.serverName with
    | some name => s.renamed u name
    | none => pure u
  if !(authorities.all s.isCertificate && certificates.all s.isCertificate && keys.all s.isKey) then
    throw .noClient
  return ⟨base, c.coreToken⟩

end Gatehouse.Core
