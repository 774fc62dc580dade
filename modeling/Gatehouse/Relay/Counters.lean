import Gatehouse.Text.Split

/-!
# Counters

What the relay counts, and the text in which the counts are read out: per series a line of help, a
line with its type and one with its value.
-/

namespace Gatehouse

/-- The counters of a relay. They are numbers of 64 bits and start over when they are full. -/
inductive Counter where
  | requests
  | unauthorized
  | rateLimited
  | sessionsIssued
  | sessionsRevoked
  | connectionsRefused
  | coreErrors
deriving DecidableEq, Repr

namespace Counter

def all : List Counter :=
  [requests, unauthorized, rateLimited, sessionsIssued, sessionsRevoked, connectionsRefused,
    coreErrors]

def series : Counter → String
  | requests => "relay_requests_total"
  | unauthorized => "relay_unauthorized_total"
  | rateLimited => "relay_rate_limited_total"
  | sessionsIssued => "relay_session_issued_total"
  | sessionsRevoked => "relay_session_revoked_total"
  | connectionsRefused => "relay_ws_rejected_total"
  | coreErrors => "relay_upstream_errors_total"

def help : Counter → String
  | requests => "Requests received by the relay"
  | unauthorized => "Requests rejected for missing or invalid credentials"
  | rateLimited => "Requests rejected by the per-client rate limiter"
  | sessionsIssued => "Session tokens issued"
  | sessionsRevoked => "Session tokens revoked"
  | connectionsRefused => "Realtime upgrades refused at the connection limit"
  | coreErrors => "Failed calls to the core API"

end Counter

structure Counters where
  value : Counter → Nat

namespace Counters

def zero : Counters :=
  ⟨fun _ => 0⟩

def add (c : Counters) (counter : Counter) (n : Nat) : Counters :=
  ⟨fun k => if k = counter then (c.value k + n) % 0x10000000000000000 else c.value k⟩

def bump (c : Counters) (counter : Counter) : Counters :=
  c.add counter 1

def bumpIf (c : Counters) (counter : Counter) (condition : Bool) : Counters :=
  if condition then c.bump counter else c

def seriesLines (name kind help value : String) : List String :=
  ["# HELP " ++ name ++ " " ++ help, "# TYPE " ++ name ++ " " ++ kind, name ++ " " ++ value]

/-- The lines that are read out; `connections` is the text of the gauge. -/
def lines (c : Counters) (connections : String) : List String :=
  Counter.all.flatMap (fun k => seriesLines k.series "counter" k.help (toString (c.value k))) ++
    seriesLines "relay_ws_active_connections" "gauge" "Open realtime connections" connections

def text (c : Counters) (connections : String) : String :=
  String.join ((c.lines connections).map (· ++ "\n"))

end Counters

end Gatehouse
