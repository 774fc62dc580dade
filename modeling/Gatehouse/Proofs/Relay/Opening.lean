import Gatehouse.Proofs.Access.Admission
import Gatehouse.Proofs.Live.Command
import Gatehouse.Proofs.Live.Session
import Gatehouse.Proofs.Relay.Course
import Gatehouse.Proofs.Relay.Running

/-!
# Who opened a connection

A connection belongs to the caller that opened it. Its token is looked at once, when it is opened, and
from then on the scopes of that caller decide over every frame. What becomes of the token later is a
matter for later requests: it opens nothing and calls nobody any more, but it closes nothing either.
-/

namespace Gatehouse.Relay

/-- A request opens a connection of a session: the gate lets its caller in, and the caller may read. -/
structure Opens (r : Relay) (st : State) (m : Moment) (request : Http.Request)
    (s : Live.Session) : Prop where
  caller : r.callerOf st m request = .ok s.caller
  read : s.caller.holds .read = true
  session : s = r.sessionOf s.caller (requestIdOf m request) request.query

variable {r : Relay} {st : State} {m : Moment} {requestId : String} {caller : Caller}
  {request : Http.Request} {o : Outside} {s : Live.Session} {since : Int}

/-! ### Opening -/

theorem session_of_admitted {e : Exchange (Answer × State)}
    (h : Course.Admitted r st m requestId caller request e)
    (hopened : (e.result o.core o.disk).1.session = some (s, since)) :
    s = r.sessionOf caller requestId request.query ∧ caller.holds .read = true := by
  cases h with
  | opened endpoint read held =>
    obtain ⟨rfl, -⟩ := Prod.mk.inj (Option.some.inj hopened)
    exact ⟨rfl, read⟩
  | revoking =>
    rw [Exchange.result_map, revokeAnswer] at hopened
    split at hopened
    all_goals cases hopened
  | document =>
    rw [Exchange.result_ask_eq, documentAnswer.eq_def] at hopened
    split at hopened
    all_goals cases hopened
  | payload =>
    rw [Exchange.result_ask_eq, commandAnswer] at hopened
    split at hopened
    all_goals cases hopened
  | _ => cases hopened

theorem opens_of_answer
    (hopened : ((r.answer st m request).result o.core o.disk).1.session = some (s, since)) :
    Opens r st m request s := by
  obtain ⟨e, hcourse, hanswer⟩ := course_inner r st m request
  rw [hanswer, Exchange.result_map] at hopened
  have hinner : (e.result o.core o.disk).1.session = some (s, since) := hopened
  cases hcourse with
  | denied => cases hinner
  | preflight => cases hinner
  | routed course =>
    cases course with
    | deep =>
      rw [Exchange.result_ask_eq] at hinner
      cases hinner
    | guarded _ course =>
      cases course with
      | limited => cases hinner
      | unauthorized => cases hinner
      | admitted buckets caller known course =>
        obtain ⟨rfl, hread⟩ := session_of_admitted course hinner
        exact ⟨known, hread, rfl⟩
    | _ => cases hinner

theorem session_of_letIn (hpath : request.path = "/ws") (hin : LetIn r st m request caller)
    (hread : caller.holds .read = true) (hroom : st.connections.acquire?.isSome)
    (hshake : request.upgradeFault? = none) (o : Outside) :
    ((r.answer st m request).result o.core o.disk).1.session
      = some (r.sessionOf caller (requestIdOf m request) request.query,
          sinceOf request.query) := by
  have hmethod : request.method = .get := by
    by_contra hother
    rw [Http.Request.upgradeFault?, if_pos hother] at hshake
    cases hshake
  obtain ⟨held, hheld⟩ := Option.isSome_iff_exists.mp hroom
  have hendpoint : Endpoint.ofPath request.path = .realtime := by
    rw [hpath]
    rfl
  have hallowed : (Endpoint.realtime.disallowed? request.method).isSome = false := by
    rw [hmethod]
    rfl
  obtain ⟨buckets, hanswer⟩ := answer_of_letIn hin (by simp [hendpoint]) (by simp [hendpoint])
  have hacquired : (Course.asked r (st.bump .requests) m request buckets).connections.acquire?
      = some held := hheld
  rw [hanswer, Exchange.result_map]
  simp only [admitted, hendpoint, hallowed, realtime, hread, hacquired, hshake]
  rfl

/-- Whom the gate refuses opens nothing, and calls nobody but to see how the core is. -/
theorem not_opens_of_refused {e : AuthFailure} (hcaller : r.callerOf st m request = .error e) :
    (∀ o : Outside, ((r.answer st m request).result o.core o.disk).1.session = none) ∧
      ∀ call, (r.answer st m request).call? = some call → Probing r request call := by
  constructor
  · intro o
    by_contra hsome
    obtain ⟨⟨s, since⟩, hopened⟩ := Option.ne_none_iff_exists'.mp hsome
    have hok := (opens_of_answer hopened).caller
    rw [hcaller] at hok
    cases hok
  · intro call hcall
    rcases (gated_of_answer hcall).passage with hprobing | ⟨-, caller, hok, -⟩
    · exact hprobing
    · rw [hcaller] at hok
      cases hok

theorem isSome_call?_handle {c : Command} (hc : c.Plain) {frame commandId : String}
    (hframe : c.InFrame frame) (hcan : s.client.CanAsk) (hcommandId : Header.Legible commandId)
    (cursor : Int) :
    (s.handle cursor commandId frame).call?.isSome
      = s.caller.mayAccess s.policy c.method c.path := by
  rw [Live.Session.handle_of_inFrame _ cursor commandId hc hframe]
  cases s.caller.mayAccess s.policy c.method c.path with
  | false => rfl
  | true =>
    have hsendable : ∀ k, c.key.bind Text.nonBlank? = some k → (Header.value? k).isSome := by
      rw [hc.key]
      exact hc.sendable
    obtain ⟨call, hcall, hsend⟩ :
        ∃ call, s.client.command c.plan.call commandId = some call ∧ call.isSendable = true :=
      hcan.isSendable_command (by rw [hcommandId.value?_eq]; rfl) hsendable
    rw [if_pos rfl, Exchange.call?_ask, hcall, Option.filter_some, if_pos hsend]
    rfl

/-! ### Histories -/

theorem exists_opens (r : Relay) (st : State) (history : History) {l : Link}
    (h : l ∈ ((Running.unconnected st).run r history).links) :
    ∃ before o m request after, history = before ++ (o, .request m request) :: after ∧
      Opens r ((Running.unconnected st).run r before).state m request l.session := by
  -- from the end of the history: the last input opened the connection, or left an earlier one
  induction history using List.reverseRecOn generalizing l with
  | nil => cases h
  | append_singleton history e ih =>
    obtain ⟨o, input⟩ := e
    have hearlier {l' : Link} (hl' : l' ∈ ((Running.unconnected st).run r history).links) :
        ∃ before o' m request after,
          history ++ [(o, input)] = before ++ (o', .request m request) :: after ∧
            Opens r ((Running.unconnected st).run r before).state m request l'.session := by
      obtain ⟨before, o', m, request, after, rfl, hopens⟩ := ih hl'
      exact ⟨before, o', m, request, after ++ [(o, input)], by simp, hopens⟩
    rw [Running.run_concat] at h
    by_cases hrequest : ∃ m request, input = .request m request
    · obtain ⟨m, request, rfl⟩ := hrequest
      rcases List.mem_append.mp h with hold | hnew
      · exact hearlier hold
      · obtain ⟨⟨s, since⟩, hopened, rfl⟩ := Option.map_eq_some_iff.mp (Option.mem_toList.mp hnew)
        exact ⟨history, o, m, request, [], rfl, opens_of_answer hopened⟩
    · have hother : ∀ m request, input ≠ .request m request := fun m request heq =>
        hrequest ⟨m, request, heq⟩
      obtain ⟨l', hl', hsession⟩ := Running.session_of_mem_step hother h
      rw [← hsession]
      exact hearlier hl'

/-- The token with which a connection was opened was worth its caller's scopes at that time. -/
structure Vouched (r : Relay) (st : State) (m : Moment) (request : Http.Request)
    (s : Live.Session) : Prop where
  opens : Opens r st m request s
  token : ∃ token credit,
    (Credentials.ofRequest request.headers request.path request.query).token = some token ∧
      r.gate.Honours st.store m.now token credit ∧ credit.Backs m.now s.caller

/-- Every open connection was opened with a token that was good at the time, and keeps the caller that
the token stood for. Whatever has become of the token since, a frame calls the core only as that
caller's scopes allow, and a command is passed on just if they do. Whom the gate refuses opens nothing,
and calls nobody but to see how the core is. -/
theorem keeps_authority (hclosed : r.gate.isOpen = false) (st : State) (history : History) :
    (∀ l ∈ ((Running.unconnected st).run r history).links,
      (∃ before o m request after, history = before ++ (o, .request m request) :: after ∧
        Vouched r ((Running.unconnected st).run r before).state m request l.session) ∧
      (∀ cursor commandId frame call,
        (l.session.handle cursor commandId frame).call? = some call →
          Live.Dispatched l.session call) ∧
      ∀ (c : Command) cursor commandId frame, c.Plain → c.InFrame frame → r.client.CanAsk →
        Header.Legible commandId →
        (l.session.handle cursor commandId frame).call?.isSome
          = l.session.caller.mayAccess r.config.unscopedPolicy c.method c.path) ∧
      ∀ st m request e, r.callerOf st m request = .error e →
        (∀ o : Outside, ((r.answer st m request).result o.core o.disk).1.session = none) ∧
          ∀ call, (r.answer st m request).call? = some call → Probing r request call := by
  refine ⟨fun l hl => ?_, fun st m request e hrefused => not_opens_of_refused hrefused⟩
  obtain ⟨before, o, m, request, after, hhistory, hopens⟩ := exists_opens r st history hl
  obtain ⟨token, credit, htoken, hworth, -, hbacks⟩ := Gate.of_authenticate_ok hclosed hopens.caller
  refine ⟨⟨before, o, m, request, after, hhistory, hopens, token, credit, htoken, hworth, hbacks⟩,
    fun cursor commandId frame call hcall => Live.Session.dispatched_of_handle hcall, ?_⟩
  intro c cursor commandId frame hc hframe hcan hcommandId
  have hpolicy : l.session.policy = r.config.unscopedPolicy := by rw [hopens.session]; rfl
  have hclient : l.session.client = r.client := by rw [hopens.session]; rfl
  rw [← hpolicy]
  exact isSome_call?_handle hc hframe (by rwa [hclient]) hcommandId cursor

/-! ### A token that runs out -/

def pocketHistory (token : String) : History :=
  [(.still, .request ⟨1000, 0, "r1", "s1"⟩ (pocketRequest .get "/ws" token))]

/-- The connection that is opened with a token for some claims. -/
def pocketLink (c : Claims) : Link :=
  ⟨pocketRelay.sessionOf (Gate.sessionCaller c (some "dev-1")) "r1" none, 0⟩

/-- A connection is opened with a token that runs out, and is still there when it has. -/
theorem exists_pocketLink :
    ∃ token c, ((Running.unconnected .initial).run pocketRelay (pocketHistory token)).links
        = [pocketLink c] ∧
      c.sessionId = Gate.pocketId ∧ c.expiresAt = 1900 ∧
      (pocketLink c).session.caller.mayAccess .deny .post "/run" = true ∧
      ∀ st clock requestId sessionId, pocketRelay.callerOf st ⟨1900, clock, requestId, sessionId⟩
        (pocketRequest .get "/ws" token) = .error (.invalidToken .expired) := by
  obtain ⟨token, c, hscopes, hsession, hdevice, hend, hstatic, hverify, hshown⟩ := exists_pocketToken
  have hcallerOf (st : State) (now : Int) (clock : Nat) (requestId sessionId : String) :
      pocketRelay.callerOf st ⟨now, clock, requestId, sessionId⟩ (pocketRequest .get "/ws" token)
        = (Gate.pocket.admitSession st.store token none now).1 := by
    have hclosed : Gate.pocket.isOpen = false := isOpen_pocketRelay
    show (Gate.pocket.authenticate st.store
      (Credentials.ofRequest (pocketRequest .get "/ws" token).headers "/ws" none) now).1 = _
    rw [hshown .get "/ws", Gate.authenticate_eq_admitSession hclosed rfl hstatic]
  have hopen : pocketRelay.callerOf .initial ⟨1000, 0, "r1", "s1"⟩
      (pocketRequest .get "/ws" token) = .ok (Gate.sessionCaller c (some "dev-1")) := by
    have hlive : State.initial.store.entries.isRevoked c.sessionId 1000 = false := by
      rw [hsession]
      decide
    have hdevices : Gate.pocket.device none (some "dev-1") = .ok (some "dev-1") := rfl
    rw [hcallerOf, Gate.admitSession_of_verify ((hverify 1000).trans (if_pos (by decide))), hlive,
      hdevice, hdevices]
    rfl
  have hallows (s : Scope) : (Gate.sessionCaller c (some "dev-1")).holds s
      = (ScopeSet.ofList Scope.operational).allows s := by
    show (ScopeSet.ofList c.scopes).allows s = _
    rw [hscopes]
  have hread : (Gate.sessionCaller c (some "dev-1")).holds .read = true := by
    rw [hallows]
    decide
  have hrun : (Gate.sessionCaller c (some "dev-1")).mayAccess .deny .post "/run" = true := by
    rw [Caller.mayAccess, hallows]
    decide
  have hin : LetIn pocketRelay .initial ⟨1000, 0, "r1", "s1"⟩ (pocketRequest .get "/ws" token)
      (Gate.sessionCaller c (some "dev-1")) :=
    ⟨nofun, nofun, rfl, hopen⟩
  have hanswer := session_of_letIn rfl hin hread rfl (upgradeFault?_pocketRequest "/ws" token) .still
  have hlink : ((Running.unconnected .initial).answer pocketRelay .still ⟨1000, 0, "r1", "s1"⟩
      (pocketRequest .get "/ws" token)).1.link? = some (pocketLink c) := by
    rw [Answer.link?, Running.answer, Running.unconnected, hanswer]
    rfl
  refine ⟨token, c, ?_, hsession, hend, hrun, fun st clock requestId sessionId => ?_⟩
  · show ((Running.unconnected .initial).step pocketRelay .still (.request _ _)).links = _
    rw [Running.links_step_request, hlink]
    rfl
  · rw [hcallerOf, Gate.admitSession_of_verify_error ((hverify 1900).trans (if_neg (by decide)))]

theorem canAsk_pocketRelay : pocketRelay.client.CanAsk :=
  ⟨⟨_, rfl⟩, fun value hvalue => by cases hvalue⟩

theorem keeps_authority_pocket :
    ∃ token c, ((Running.unconnected .initial).run pocketRelay (pocketHistory token)).links
        = [pocketLink c] ∧
      (∃ before o m request after,
        pocketHistory token = before ++ (o, .request m request) :: after ∧
        Vouched pocketRelay ((Running.unconnected .initial).run pocketRelay before).state m request
          (pocketLink c).session) ∧
      ((pocketLink c).session.handle 0 "c1" (runUnderFrame "k1")).call?.isSome = true ∧
      ((pocketRelay.answer .initial ⟨1900, 0, "r2", "s2"⟩ (pocketRequest .get "/ws" token)).result
        Outside.still.core Outside.still.disk).1.session = none := by
  obtain ⟨token, c, hlinks, -, -, hrun, hexpired⟩ := exists_pocketLink
  obtain ⟨hopen, hrefused⟩ := keeps_authority isOpen_pocketRelay .initial (pocketHistory token)
  obtain ⟨hvouched, -, hcommand⟩ := hopen (pocketLink c) (by rw [hlinks]; exact List.mem_cons_self)
  have hcommandId : Header.Legible "c1" := by decide
  refine ⟨token, c, hlinks, hvouched, ?_, ?_⟩
  · rw [hcommand (runUnder "k1") 0 "c1" _ plain_runUnder_k1 (inFrame_runUnder "k1")
      canAsk_pocketRelay hcommandId]
    exact hrun
  · exact (hrefused .initial ⟨1900, 0, "r2", "s2"⟩ _ _ (hexpired _ _ _ _)).1 .still

/-- A connection outlives its token: when the token has run out, a frame still calls the core. -/
theorem not_closed_with_token :
    ¬∀ (r : Relay) (st : State) (history : History),
      ∀ l ∈ ((Running.unconnected st).run r history).links, ∀ id ends,
        l.session.caller.kind = .session → l.session.caller.sessionId = some id →
        l.session.caller.expiresAt = some ends → ∀ t,
        ends ≤ t ∨
          (((Running.unconnected st).run r history).state.store.isRevoked id t).1 = true →
        ∀ commandId frame, (l.handle commandId frame).call? = none := by
  intro hcloses
  obtain ⟨token, c, hlinks, hsession, hend, hrun, -⟩ := exists_pocketLink
  have hmem : pocketLink c
      ∈ ((Running.unconnected .initial).run pocketRelay (pocketHistory token)).links := by
    rw [hlinks]
    exact List.mem_cons_self
  have hnone := hcloses pocketRelay .initial (pocketHistory token) (pocketLink c) hmem c.sessionId
    c.expiresAt rfl rfl rfl 1900 (.inl hend.le) "c1" (runUnderFrame "k1")
  have hcommandId : Header.Legible "c1" := by decide
  have hsome := isSome_call?_handle (s := (pocketLink c).session) plain_runUnder_k1
    (inFrame_runUnder "k1") canAsk_pocketRelay hcommandId 0
  have hcalled : ((pocketLink c).session.handle 0 "c1" (runUnderFrame "k1")).call?.isSome = true :=
    hsome.trans hrun
  have hquiet : ((pocketLink c).session.handle 0 "c1" (runUnderFrame "k1")).call? = none := hnone
  rw [hquiet] at hcalled
  cases hcalled

end Gatehouse.Relay
