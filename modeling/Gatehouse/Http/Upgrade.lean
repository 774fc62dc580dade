import Gatehouse.Http.Message

/-!
# Opening a realtime connection

A connection is taken over for frames only after a handshake that says so in every field.
-/

namespace Gatehouse.Http

inductive UpgradeFault where
  | notGet
  | connection
  | upgrade
  | key
  | version
  | unavailable
deriving DecidableEq, Repr

namespace UpgradeFault

def status : UpgradeFault → Nat
  | notGet => 405
  | unavailable => 426
  | _ => 400

def message : UpgradeFault → String
  | notGet => "Request method must be \x60GET\x60"
  | connection => "Connection header did not include 'upgrade'"
  | upgrade => "\x60Upgrade\x60 header did not include 'websocket'"
  | key => "\x60Sec-WebSocket-Key\x60 header missing"
  | version => "\x60Sec-WebSocket-Version\x60 header did not include '13'"
  | unavailable => "WebSocket request couldn't be upgraded since no upgrade state was present"

def response (f : UpgradeFault) : Response :=
  .plain f.status f.message

end UpgradeFault

namespace Request

/-- The first value of a field in small letters, where it is UTF-8. -/
def folded? (name : String) (r : Request) : Option String :=
  ((r.headers.first? name).bind Utf8.decode?).map Text.lower

def upgradeFault? (r : Request) : Option UpgradeFault :=
  if r.method ≠ .get then some .notGet
  else if !(r.folded? "connection").any (Text.contains "upgrade") then some .connection
  else if r.folded? "upgrade" ≠ some "websocket" then some .upgrade
  else if (r.headers.first? "sec-websocket-key").isNone then some .key
  else if r.folded? "sec-websocket-version" ≠ some "13" then some .version
  else if !r.canUpgrade then some .unavailable
  else none

end Request

end Gatehouse.Http
