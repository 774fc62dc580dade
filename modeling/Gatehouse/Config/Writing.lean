import Gatehouse.Config.Reading

/-!
# Settings as JSON

The record of all settings under the names of their fields, as it is shown to whoever looks after a
relay. The rate is a text, so that no value of it is lost.
-/

namespace Gatehouse.Config

def shown (c : Config) : Json :=
  let texts (l : List String) : Json := .list (l.map .text)
  Json.record
    [("core_url", .text c.coreUrl), ("core_token", Json.text? c.coreToken),
      ("bridge_token", Json.text? c.staticToken), ("session_signing_key", Json.text? c.signingKey),
      ("session_ttl_seconds", .int c.sessionLife), ("allowed_device_ids", texts c.allowedDevices),
      ("cors_allowed_origins", texts c.allowedOrigins),
      ("trusted_proxy_cidrs", texts c.trustedProxies),
      ("revocation_store_path", Json.text? c.storePath),
      ("rate_limit_rps", .text (Decimal.Layout.plain.write c.rate)),
      ("rate_limit_burst", .nat c.burst), ("max_ws_connections", .nat c.maxConnections),
      ("max_body_bytes", .nat c.maxBody), ("timeout_seconds", .nat c.timeout),
      ("core_ca_file", Json.text? c.caFile), ("core_client_cert_file", Json.text? c.clientCertFile),
      ("core_client_key_file", Json.text? c.clientKeyFile),
      ("core_tls_server_name", Json.text? c.serverName),
      ("core_tls_insecure_skip_verify", .bool c.skipVerify), ("log_requests", .bool c.logRequests),
      ("unscoped_route_policy", .text c.unscopedPolicy.name)]

end Gatehouse.Config
