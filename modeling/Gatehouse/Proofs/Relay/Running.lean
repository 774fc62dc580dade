import Gatehouse.Live.Pump
import Gatehouse.Proofs.Access.Credentials
import Gatehouse.Proofs.Relay.Gated
import Gatehouse.Proofs.Session.Issuing

/-!
# A relay at work

Requests, frames and polls reach a relay in any order, and while it waits the core and the disk may
behave in any way. A request may leave a connection behind, which keeps the session it was opened
with until it is closed.
-/

namespace Gatehouse

namespace Live.Feed

def isFailed : Feed → Bool
  | failed _ => true
  | batch _ _ => false

end Live.Feed

namespace Relay

/-- How the core and the disk behave while the relay waits for them. -/
structure Outside where
  core : Core.Request → Core.Answer
  disk : FileWrite → Option String

/-- An open connection: its session, and the cursor of its feed. -/
structure Link where
  session : Live.Session
  cursor : Int

/-- A relay at work: what it carries, and its open connections. -/
structure Running where
  state : State
  links : List Link

/-- What reaches a relay: a request, a frame on a connection, the outcome of a poll that a connection
made at `since`, or the end of a connection. -/
inductive Input where
  | request (m : Moment) (request : Http.Request)
  | frame (link : Nat) (commandId text : String)
  | poll (link : Nat) (since : Int)
  | close (link : Nat)

/-- What reached a relay, and how the outside behaved meanwhile. -/
abbrev History := List (Outside × Input)

def Answer.link? (a : Answer) : Option Link :=
  a.session.map fun (session, since) => ⟨session, max since 0⟩

namespace Link

def handle (l : Link) (commandId text : String) : Exchange Live.Handled :=
  l.session.handle l.cursor commandId text

def poll (l : Link) (o : Outside) (since : Int) : Live.Feed :=
  l.session.feed ((l.session.pollRequest since).result o.core o.disk)

end Link

namespace Running

def unconnected (st : State) : Running :=
  ⟨st, []⟩

def answer (r : Relay) (w : Running) (o : Outside) (m : Moment) (request : Http.Request) :
    Answer × State :=
  (r.answer w.state m request).result o.core o.disk

/-- Moves the cursor of a connection, and counts a call that failed for it. -/
def moved (w : Running) (i : Nat) (l : Link) (cursor : Int) (isFailed : Bool) : Running :=
  ⟨w.state.bumpIf .coreErrors isFailed, w.links.set i { l with cursor }⟩

/-- What one input leaves; a connection that is not there has no effect. -/
def step (r : Relay) (w : Running) (o : Outside) : Input → Running
  | .request m request =>
    let (a, state) := w.answer r o m request
    ⟨state, w.links ++ a.link?.toList⟩
  | .frame i commandId text =>
    match w.links[i]? with
    | none => w
    | some l =>
      let handled := (l.handle commandId text).result o.core o.disk
      w.moved i l handled.cursor handled.isFailed
  | .poll i since =>
    match w.links[i]? with
    | none => w
    | some l =>
      let feed := l.poll o since
      w.moved i l (feed.advance since l.cursor) feed.isFailed
  | .close i =>
    match w.links[i]? with
    | none => w
    | some _ =>
      ⟨{ w.state with connections := w.state.connections.release }, w.links.eraseIdx i⟩

def run (r : Relay) (w : Running) (history : History) : Running :=
  history.foldl (fun w (o, input) => w.step r o input) w

/-! ### Steps -/

variable {r : Relay} {w : Running} {o : Outside}

theorem run_concat (r : Relay) (w : Running) (history : History) (o : Outside) (input : Input) :
    w.run r (history ++ [(o, input)]) = (w.run r history).step r o input := by
  rw [run, run, List.foldl_append]
  rfl

theorem links_step_request (r : Relay) (w : Running) (o : Outside) (m : Moment)
    (request : Http.Request) :
    (w.step r o (.request m request)).links
      = w.links ++ (w.answer r o m request).1.link?.toList := rfl

theorem session_of_mem_step {input : Input} (hinput : ∀ m request, input ≠ .request m request)
    {l : Link} (h : l ∈ (w.step r o input).links) : ∃ l' ∈ w.links, l'.session = l.session := by
  have hmoved {i : Nat} {before : Link} (hbefore : w.links[i]? = some before) {cursor : Int}
      {isFailed : Bool} (hl : l ∈ (w.moved i before cursor isFailed).links) :
      ∃ l' ∈ w.links, l'.session = l.session := by
    rcases List.mem_or_eq_of_mem_set hl with hold | hnew
    · exact ⟨l, hold, rfl⟩
    · exact ⟨before, List.mem_of_getElem? hbefore, by rw [hnew]⟩
  cases input with
  | request m request => exact absurd rfl (hinput m request)
  | frame i commandId text =>
    simp only [step] at h
    split at h
    · exact ⟨l, h, rfl⟩
    · next before hbefore => exact hmoved hbefore h
  | poll i since =>
    simp only [step] at h
    split at h
    · exact ⟨l, h, rfl⟩
    · next before hbefore => exact hmoved hbefore h
  | close i =>
    simp only [step] at h
    split at h
    · exact ⟨l, h, rfl⟩
    · exact ⟨l, List.mem_of_mem_eraseIdx h, rfl⟩

end Running

/-! ### A relay with one device -/

/-- A core that cannot be reached, and a disk that takes every file. -/
def Outside.still : Outside :=
  ⟨fun _ => World.refused, fun _ => none⟩

/-- A relay that lets in one device, in front of a core on this machine. -/
def pocketRelay : Relay :=
  { unrestricted with gate := Gate.pocket, desk := Gate.pocketDesk }

theorem isOpen_pocketRelay : pocketRelay.gate.isOpen = false :=
  Gate.isOpen_eq_false Gate.seals_pocket.key_eq

/-- A request with a token that could also open a connection. -/
def pocketRequest (method : Method) (path token : String) : Http.Request where
  method
  path
  query := none
  headers :=
    [("authorization", Utf8.encode ("Bearer " ++ token)), ("connection", Utf8.encode "Upgrade"),
      ("upgrade", Utf8.encode "websocket"), ("sec-websocket-key", Utf8.encode "key"),
      ("sec-websocket-version", Utf8.encode "13")]
  body := []
  peer := none
  canUpgrade := true

/-- A token for a quarter of an hour and everything but `admin`, as a request presents it. -/
theorem exists_pocketToken :
    ∃ token c, c.scopes = Scope.operational ∧ c.sessionId = Gate.pocketId ∧
      c.deviceId = some "dev-1" ∧ c.expiresAt = 1900 ∧ Gate.pocket.staticToken ≠ some token ∧
      (∀ t, Gate.pocket.signer.verify token t = if t < 1900 then .ok c else .error .expired) ∧
      ∀ method path, Credentials.ofRequest (pocketRequest method path token).headers path none
        = ⟨some token, none⟩ := by
  obtain ⟨token, c, hissue, hstatic, hblank, hsession, hdevice, hend, hverify⟩ := Gate.issue_pocket
  obtain ⟨-, scopes, -, hscopes, hclaims, -⟩ := Signer.of_issue hissue
  have hasked : Scope.normalize (Desk.order (.staticToken (some "dev-1"))
      [("subject", .text " phone ")]).scopes = .ok Scope.operational := by decide
  have hoperational : c.scopes = Scope.operational := by
    rw [hclaims]
    exact Except.ok.inj (hscopes.symm.trans hasked)
  refine ⟨token, c, hoperational, hsession, hdevice, hend, hstatic, hverify, fun method path => ?_⟩
  have htoken := Credentials.token_ofRequest hblank (Signer.legible_of_issue hissue)
    (h := (pocketRequest method path token).headers) rfl path none
  have hnamed : (Credentials.ofRequest (pocketRequest method path token).headers path
      none).deviceId = none := by
    rw [Credentials.ofRequest]
    show ((pocketRequest method path token).headers.trimmed? "x-device-id").or
      (if path = Route.realtimePath then none else none) = none
    rw [ite_self]
    rfl
  exact congrArg₂ Credentials.mk htoken hnamed

theorem upgradeFault?_pocketRequest (path token : String) :
    (pocketRequest .get path token).upgradeFault? = none := by
  have hfolded {name value : String}
      (h : (pocketRequest .get path token).headers.first? name = some (Utf8.encode value)) :
      (pocketRequest .get path token).folded? name = some (Text.lower value) := by
    rw [Http.Request.folded?, h, Option.bind_some, Utf8.decode?_encode]
    rfl
  have hconnection : (some (Text.lower "Upgrade")).any (Text.contains "upgrade") = true := by decide
  have hupgrade : some (Text.lower "websocket") = some "websocket" := by decide
  have hversion : some (Text.lower "13") = some "13" := by decide
  rw [Http.Request.upgradeFault?, hfolded rfl, hfolded rfl, hfolded rfl, hconnection, hupgrade,
    hversion]
  rfl

end Relay

end Gatehouse
