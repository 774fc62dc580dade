import Gatehouse.Access.Route
import Gatehouse.Http.Header
import Gatehouse.Url.Form

/-!
# Credentials of a request

A token comes in the `Authorization` field and a device id in `X-Device-ID`. Browsers cannot set
fields when they open a realtime connection, so there the query may carry both; a field still wins.
-/

namespace Gatehouse

structure Credentials where
  token : Option String
  deviceId : Option String
deriving DecidableEq, Repr

namespace Credentials

/-- The token after the word `Bearer` and a space. -/
def bearer? (value : String) : Option String := do
  let (scheme, rest) ← Text.cut ' ' (Text.trim value)
  if Text.sameLetters scheme "bearer" then Text.nonBlank? rest else none

def ofRequest (h : Headers) (path : String) (query : Option String) : Credentials :=
  let fromQuery (name : String) : Option String :=
    if path = Route.realtimePath then Form.value? query name else none
  { token := ((h.text? "authorization").bind bearer?).or (fromQuery "token")
    deviceId := (h.trimmed? "x-device-id").or (fromQuery "device_id") }

end Credentials

end Gatehouse
