import Gatehouse.Config.Basic
import Gatehouse.Json.Reading

/-!
# Reading settings from a record

Settings are read from a record in JSON or YAML. Every field may be left out and has the same kind
in both; how a kind is read is what the formats differ in.
-/

namespace Gatehouse.Config

/-- How a format reads the kinds of a field. -/
structure Kinds (ω : Type) where
  isNull : ω → Bool
  text? : ω → Option String
  bool? : ω → Option Bool
  int64? : ω → Option Int
  natBelow? : Nat → ω → Option Nat
  float? : ω → Option Float
  items? : ω → Option (List ω)
  choice? : ω → Option String

def fieldNames : List String :=
  ["core_url", "core_token", "bridge_token", "session_signing_key", "session_ttl_seconds",
    "allowed_device_ids", "cors_allowed_origins", "trusted_proxy_cidrs", "revocation_store_path",
    "rate_limit_rps", "rate_limit_burst", "max_ws_connections", "max_body_bytes",
    "timeout_seconds", "core_ca_file", "core_client_cert_file", "core_client_key_file",
    "core_tls_server_name", "core_tls_insecure_skip_verify", "log_requests",
    "unscoped_route_policy"]

/-- The settings of some fields, defaults for the others. -/
def ofFields? {ω : Type} (kinds : Kinds ω) (fields : List (String × ω)) : Option Config :=
  let field {α : Type} (name : String) (read : ω → Option α) (default : α) : Option α :=
    match Keyed.get? name fields with
    | some w => read w
    | none => some default
  let text? (name : String) : Option (Option String) :=
    field name (fun w => if kinds.isNull w then some none else (kinds.text? w).map some) none
  let texts (name : String) : Option (List String) :=
    field name (fun w => (kinds.items? w).bind fun items => items.mapM kinds.text?) []
  let size (name : String) (default : Nat) : Option Nat :=
    field name (kinds.natBelow? 0x10000000000000000) default
  do
    return {
      coreUrl := ← field "core_url" kinds.text? default.coreUrl
      coreToken := ← text? "core_token"
      staticToken := ← text? "bridge_token"
      signingKey := ← text? "session_signing_key"
      sessionLife := ← field "session_ttl_seconds" kinds.int64? default.sessionLife
      allowedDevices := ← texts "allowed_device_ids"
      allowedOrigins := ← texts "cors_allowed_origins"
      trustedProxies := ← texts "trusted_proxy_cidrs"
      storePath := ← text? "revocation_store_path"
      rate := ← field "rate_limit_rps" kinds.float? default.rate
      burst := ← field "rate_limit_burst" (kinds.natBelow? 0x100000000) default.burst
      maxConnections := ← size "max_ws_connections" default.maxConnections
      maxBody := ← size "max_body_bytes" default.maxBody
      timeout := ← size "timeout_seconds" default.timeout
      caFile := ← text? "core_ca_file"
      clientCertFile := ← text? "core_client_cert_file"
      clientKeyFile := ← text? "core_client_key_file"
      serverName := ← text? "core_tls_server_name"
      skipVerify := ← field "core_tls_insecure_skip_verify" kinds.bool? default.skipVerify
      logRequests := ← field "log_requests" kinds.bool? default.logRequests
      unscopedPolicy :=
        ← field "unscoped_route_policy" (fun w => (kinds.choice? w).bind UnscopedPolicy.ofName?)
          default.unscopedPolicy }

def jsonKinds : Kinds Json.Written where
  isNull
    | .null => true
    | _ => false
  text? := Json.Written.text?
  bool? := Json.Written.bool?
  int64? := Json.Written.int64?
  natBelow? := Json.Written.natBelow?
  float? := Json.Written.float?
  items?
    | .list items => some items
    | _ => none
  choice? := Json.Written.choice?

def ofJson? (w : Json.Written) : Option Config :=
  (w.fields? fieldNames).bind (ofFields? jsonKinds)

end Gatehouse.Config
