import Gatehouse.Http.Header
import Gatehouse.Net.Network
import Gatehouse.Text.Split

/-!
# Who a request comes from

A proxy in front of the relay says for whom it asks. It is believed only if its own address lies in
a trusted network; otherwise the peer is the client.
-/

namespace Gatehouse

structure Proxies where
  networks : List Network

namespace Proxies

def trusts (p : Proxies) (peer : Option Address) : Bool :=
  match peer with
  | some a => p.networks.any fun n => n.contains a
  | none => false

/-- The first item of a field that a proxy adds to. -/
def firstItem? (name : String) (h : Headers) : Option String :=
  (h.text? name).bind fun v => (Text.split ',' v).head?.map Text.trim

/-- The client that a request is counted for. -/
def client (p : Proxies) (h : Headers) (peer : Option Address) : String :=
  let named := if p.trusts peer then (firstItem? "x-forwarded-for" h).filter (· ≠ "") else none
  match named, peer with
  | some c, _ => c
  | none, some a => a.text
  | none, none => "unknown"

def scheme (p : Proxies) (h : Headers) (peer : Option Address) : String :=
  if p.trusts peer && (firstItem? "x-forwarded-proto" h).map Text.lower == some "https" then "https"
  else "http"

end Proxies

end Gatehouse
