import Gatehouse.Core.Setup
import Gatehouse.Url.International
import Gatehouse.World.Disk

/-!
# A world to try a relay in

A disk in memory and a core that answers from a script. What the relay asks of the core is kept, so
that a run shows both what the relay did and what it was told. Where the core cannot be reached, no
call arrives there and each one fails.
-/

namespace Gatehouse

/-- A disk, the answers the core has left if it can be reached, and what it has been asked. -/
structure World where
  disk : Disk
  core : Option (List Core.Answer)
  asked : List Core.Request

namespace World

def ofDisk (disk : Disk) : World :=
  ⟨disk, none, []⟩

def silent : Core.Answer :=
  .ok ⟨200, [], .whole (Utf8.encode "\x7b\x7d")⟩

def refused : Core.Answer :=
  .error (.lost "connection refused")

def call (w : World) (r : Core.Request) : Core.Answer × World :=
  match w.core with
  | none => (refused, w)
  | some script =>
    (script.head?.getD silent, { w with core := some script.tail, asked := w.asked ++ [r] })

def run {α : Type} (w : World) : Exchange α → α × World
  | .done a => (a, w)
  | .call r resume =>
    let (answer, w) := w.call r
    run w (resume answer)
  | .save f resume =>
    let (fault, disk) := w.disk.save f
    run { w with disk } (resume fault)

def withFile (w : World) (name : String) (b : Bytes) : World :=
  { w with disk := w.disk.write name b Disk.ordinary }

/-- The world with a directory in it, and those above it if they can be made. -/
def withDirectory (w : World) (name : String) : World :=
  { w with disk := w.disk.makeDirectory name }

def forgetAsked (w : World) : World :=
  { w with asked := [] }

/-- Why a host name has no address: addresses and the machine itself are known, other names would
have to be asked for. -/
def lookupFault (host : String) : Option String :=
  match Address.ofText? host with
  | some (.v4 _) => none
  | _ =>
    if host = "localhost" then none
    else if (Text.after? "[" host).isSome then
      some "failed to lookup address information: Name or service not known"
    else some "failed to lookup address information: Temporary failure in name resolution"

/-- What a client is set up from: no bytes are taken for a certificate or a key. -/
def surroundings (w : World) : Core.Surroundings where
  read := w.disk.read
  isCertificate := fun _ => false
  isKey := fun _ => false
  lookupFault := lookupFault

end World

end Gatehouse
