import Gatehouse.Proofs.Access.Admission
import Gatehouse.Proofs.Access.Credentials
import Gatehouse.Proofs.Relay.Course
import Gatehouse.Proofs.Relay.Running

/-!
# Who changes what is trusted

What a relay trusts is changed by issuing and by revoking a session, and behind the gate both look for
the scope `admin` before they look at anything else. Asking who somebody is may drop an entry from the
store, but none that anybody could still ask for. So without an admin nothing changes, whatever else
is sent.
-/

namespace Gatehouse.Relay

/-- A request that shows the static token, or the token of a session that may do everything. -/
def PresentsAdmin (r : Relay) (m : Moment) (request : Http.Request) : Prop :=
  ∃ token,
    (Credentials.ofRequest request.headers request.path request.query).token = some token ∧
      (r.gate.staticToken = some token ∨
        ∃ c, r.gate.signer.verify token m.now = .ok c ∧ .admin ∈ c.scopes)

/-- Two states that count the same sessions as issued and revoked, and that say the same of every
session at `now` and later. -/
structure SameTrust (now : Int) (st st' : State) : Prop where
  issued : st'.counters.value .sessionsIssued = st.counters.value .sessionsIssued
  revoked : st'.counters.value .sessionsRevoked = st.counters.value .sessionsRevoked
  told : ∀ id t, now ≤ t → (st'.store.isRevoked id t).1 = (st.store.isRevoked id t).1

/-- An answer that gives nothing away: it has no body, or that of a refusal. -/
structure Declines (requestId : String) (response : Http.Response) : Prop where
  status : response.status ≠ 200
  body : response.body = [] ∨ ∃ e : Refusal, response.body = Utf8.encode (e.record requestId).write

variable {r : Relay} {st : State} {m : Moment} {requestId : String} {caller : Caller}
  {request : Http.Request} {now : Int}

/-! ### States -/

namespace SameTrust

variable {st' st'' : State}

theorem refl (now : Int) (st : State) : SameTrust now st st :=
  ⟨rfl, rfl, fun _ _ _ => rfl⟩

theorem trans (h : SameTrust now st st') (h' : SameTrust now st' st'') :
    SameTrust now st st'' where
  issued := h'.issued.trans h.issued
  revoked := h'.revoked.trans h.revoked
  told id t ht := (h'.told id t ht).trans (h.told id t ht)

theorem mono {later : Int} (h : SameTrust now st st') (hle : now ≤ later) :
    SameTrust later st st' where
  issued := h.issued
  revoked := h.revoked
  told id t ht := h.told id t (hle.trans ht)

theorem of_eq (hstore : st'.store = st.store) (hcounters : st'.counters = st.counters) :
    SameTrust now st st' := by
  constructor
  · rw [hcounters]
  · rw [hcounters]
  · intro id t _
    rw [hstore]

theorem bump {counter : Counter} (h : SameTrust now st st') (hissued : counter ≠ .sessionsIssued)
    (hrevoked : counter ≠ .sessionsRevoked) : SameTrust now st (st'.bump counter) := by
  have hother {k : Counter} (hk : counter ≠ k) :
      (st'.bump counter).counters.value k = st'.counters.value k := if_neg (Ne.symm hk)
  exact ⟨(hother hissued).trans h.issued, (hother hrevoked).trans h.revoked, h.told⟩

theorem bumpIf {counter : Counter} (h : SameTrust now st st') (condition : Bool)
    (hissued : counter ≠ .sessionsIssued) (hrevoked : counter ≠ .sessionsRevoked) :
    SameTrust now st (st'.bumpIf counter condition) := by
  cases condition with
  | true => exact h.bump hissued hrevoked
  | false => exact h

end SameTrust

theorem sameTrust_asked (r : Relay) (st : State) (m : Moment) (request : Http.Request)
    (buckets : Limit.Buckets) : SameTrust m.now st (Course.asked r st m request buckets) := by
  refine ⟨rfl, rfl, fun id t ht => ?_⟩
  exact Gate.isRevoked_authenticate r.gate st.store _ ht id

/-! ### Courses -/

theorem sameTrust_of_admitted (hadmin : caller.holds .admin = false)
    {e : Exchange (Answer × State)} (h : Course.Admitted r st m requestId caller request e)
    (o : Outside) : SameTrust now st (e.result o.core o.disk).2 := by
  cases h with
  | notAllowed => exact .refl now st
  | refused => exact .refl now st
  | issued _ admin =>
    rw [hadmin] at admin
    cases admin
  | revoking _ admin =>
    rw [hadmin] at admin
    cases admin
  | full => exact (SameTrust.refl now st).bump (by decide) (by decide)
  | unopened => exact .of_eq rfl rfl
  | opened => exact .of_eq rfl rfl
  | document =>
    rw [Exchange.result_ask_eq, documentAnswer.eq_def]
    split
    · exact (SameTrust.refl now st).bump (by decide) (by decide)
    · exact (SameTrust.refl now st).bumpIf _ (by decide) (by decide)
  | payload =>
    rw [Exchange.result_ask_eq, commandAnswer]
    split
    · exact (SameTrust.refl now st).bump (by decide) (by decide)
    · exact (SameTrust.refl now st).bumpIf _ (by decide) (by decide)

theorem holds_admin_eq_false (hclosed : r.gate.isOpen = false)
    (hmodest : ¬r.PresentsAdmin m request) (h : r.callerOf st m request = .ok caller) :
    caller.holds .admin = false := by
  obtain ⟨token, credit, htoken, hworth, -, hbacks⟩ := Gate.of_authenticate_ok hclosed h
  cases hworth with
  | staticToken same => exact absurd ⟨token, htoken, .inl same⟩ hmodest
  | session c other verified live =>
    -- a session's caller has the scopes of its claims and no others
    have hmissing : caller.scopes.has .admin ≠ true := fun hhas =>
      hmodest ⟨token, htoken, .inr ⟨c, verified, (hbacks.2.1 .admin).mp hhas⟩⟩
    rw [Caller.holds, ScopeSet.allows, Bool.or_self]
    exact Bool.eq_false_iff.mpr hmissing

section Modest

variable (hclosed : r.gate.isOpen = false) (hmodest : ¬r.PresentsAdmin m request)

include hclosed hmodest

theorem sameTrust_of_guarded {e : Exchange (Answer × State)}
    (h : Course.Guarded r st m requestId request e) (o : Outside) :
    SameTrust m.now st (e.result o.core o.disk).2 := by
  cases h with
  | limited buckets retryAfter =>
    have hsame : SameTrust m.now st { st with buckets } := .of_eq rfl rfl
    exact hsame.bump (by decide) (by decide)
  | unauthorized buckets =>
    exact (sameTrust_asked r st m request buckets).bump (by decide) (by decide)
  | admitted buckets caller known course =>
    have hadmin := holds_admin_eq_false hclosed hmodest known
    exact (sameTrust_asked r st m request buckets).trans (sameTrust_of_admitted hadmin course o)

theorem sameTrust_of_inner {e : Exchange (Answer × State)}
    (h : Course.Inner r st m requestId request e) (o : Outside) :
    SameTrust m.now st (e.result o.core o.disk).2 := by
  cases h with
  | denied => exact .refl _ st
  | preflight => exact .refl _ st
  | routed course =>
    cases course with
    | notAllowed => exact .refl _ st
    | repeated => exact .refl _ st
    | shallow => exact .refl _ st
    | deep =>
      rw [Exchange.result_ask_eq]
      exact .refl _ st
    | metrics => exact .refl _ st
    | guarded _ course => exact sameTrust_of_guarded hclosed hmodest course o

theorem sameTrust_of_answer (st : State) (o : Outside) :
    SameTrust m.now st ((r.answer st m request).result o.core o.disk).2 := by
  obtain ⟨e, hcourse, hanswer⟩ := course_inner r st m request
  -- the request is counted first, and the last touches change the response only
  have hcounted : SameTrust m.now st (st.bump .requests) :=
    (SameTrust.refl m.now st).bump (by decide) (by decide)
  rw [hanswer, Exchange.result_map]
  exact hcounted.trans (sameTrust_of_inner hclosed hmodest hcourse o)

end Modest

/-! ### Declining -/

theorem Refusal.status_ne_ok (e : Refusal) : e.status ≠ 200 := by
  cases e with
  | core e => cases e <;> simp [Refusal.status, Core.Failure.status]
  | _ => simp [Refusal.status]

theorem declines_refused (e : Refusal) (requestId : String) :
    Declines requestId (e.response requestId) := by
  refine ⟨Refusal.status_ne_ok e, .inr ⟨e, ?_⟩⟩
  rw [Refusal.response, Http.Response.json, Http.Response.ofText]

theorem declines_empty {status : Nat} (h : status ≠ 200) (requestId : String) :
    Declines requestId (.empty status) :=
  ⟨h, .inl rfl⟩

theorem Declines.finished {response : Http.Response} (h : Declines requestId response)
    (decision : OriginDecision) (id : String) (request : Http.Request) :
    Declines requestId (finished decision id request response) := by
  refine ⟨h.status, ?_⟩
  show (if request.method = .head then [] else response.body) = [] ∨ ∃ e : Refusal,
    (if request.method = .head then [] else response.body) = _
  split
  · exact .inl rfl
  · exact h.body

theorem declines_of_admitted (hadmin : caller.holds .admin = false)
    (hendpoint : Endpoint.ofPath request.path = .issue ∨ Endpoint.ofPath request.path = .revoke)
    {e : Exchange (Answer × State)} (h : Course.Admitted r st m requestId caller request e)
    (o : Outside) : Declines requestId (e.result o.core o.disk).1.response := by
  have helsewhere {other : Endpoint} (hother : Endpoint.ofPath request.path = other)
      (hissue : other ≠ .issue) (hrevoke : other ≠ .revoke) : False := by
    rw [hother] at hendpoint
    exact hendpoint.elim hissue hrevoke
  cases h with
  | notAllowed => exact declines_empty (by decide) requestId
  | refused e => exact declines_refused e requestId
  | issued _ admin =>
    rw [hadmin] at admin
    cases admin
  | revoking _ admin =>
    rw [hadmin] at admin
    cases admin
  | full => exact declines_refused .tooManyConnections requestId
  | unopened endpoint => exact (helsewhere endpoint (by decide) (by decide)).elim
  | opened endpoint => exact (helsewhere endpoint (by decide) (by decide)).elim
  | document endpoint => exact (helsewhere endpoint (by decide) (by decide)).elim
  | payload endpoint => exact (helsewhere endpoint (by decide) (by decide)).elim

/-- Asked for a session, or for the end of one, the relay declines unless an admin asks. -/
theorem declines_of_answer (hclosed : r.gate.isOpen = false) (hmodest : ¬r.PresentsAdmin m request)
    (hpath : request.path = "/auth/session" ∨ request.path = "/auth/session/revoke")
    (st : State) (o : Outside) :
    Declines (requestIdOf m request)
      ((r.answer st m request).result o.core o.disk).1.response := by
  have hendpoint : Endpoint.ofPath request.path = .issue ∨
      Endpoint.ofPath request.path = .revoke := by
    rcases hpath with hissue | hrevoke
    · rw [hissue]
      exact .inl rfl
    · rw [hrevoke]
      exact .inr rfl
  have hnot {path : String} (hother : request.path = path) (h : path ≠ "/auth/session")
      (h' : path ≠ "/auth/session/revoke") : False := by
    rw [hother] at hpath
    exact hpath.elim h h'
  obtain ⟨e, hcourse, hanswer⟩ := course_inner r st m request
  rw [hanswer, Exchange.result_map]
  apply Declines.finished
  cases hcourse with
  | denied => exact declines_refused .originDenied _
  | preflight => exact declines_empty (by decide) _
  | routed course =>
    cases course with
    | notAllowed => exact declines_empty (by decide) _
    | repeated path => exact (hnot path (by decide) (by decide)).elim
    | shallow path => exact (hnot path (by decide) (by decide)).elim
    | deep path => exact (hnot path (by decide) (by decide)).elim
    | metrics path => exact (hnot path (by decide) (by decide)).elim
    | guarded _ course =>
      cases course with
      | limited buckets retryAfter => exact declines_refused (.rateLimited retryAfter) _
      | unauthorized buckets e => exact declines_refused (.ofAuth e) _
      | admitted buckets caller known course =>
        have hadmin := holds_admin_eq_false hclosed hmodest known
        exact declines_of_admitted hadmin hendpoint course o

/-! ### Histories -/

/-- One input changes nothing of what is trusted, if it is no request of an admin. -/
theorem Running.sameTrust_step (hclosed : r.gate.isOpen = false) (w : Running) (o : Outside)
    {input : Input} (htime : ∀ m request, input = .request m request → m.now ≤ now)
    (hmodest : ∀ m request, input = .request m request → ¬r.PresentsAdmin m request) :
    SameTrust now w.state (w.step r o input).state := by
  have hmoved (i : Nat) (l : Link) (cursor : Int) (isFailed : Bool) :
      SameTrust now w.state (w.moved i l cursor isFailed).state :=
    (SameTrust.refl now w.state).bumpIf isFailed (by decide) (by decide)
  cases input with
  | request m request =>
    have hanswer := sameTrust_of_answer hclosed (hmodest m request rfl) w.state o
    exact hanswer.mono (htime m request rfl)
  | frame i commandId text =>
    rw [step]
    split
    · exact .refl now w.state
    · exact hmoved i _ _ _
  | poll i since =>
    rw [step]
    split
    · exact .refl now w.state
    · exact hmoved i _ _ _
  | close i =>
    rw [step]
    split
    · exact .refl now w.state
    · exact .of_eq rfl rfl

theorem Running.sameTrust_run (hclosed : r.gate.isOpen = false) (w : Running) (history : History)
    (htimes : ∀ o m request, (o, Input.request m request) ∈ history → m.now ≤ now)
    (hmodest : ∀ o m request, (o, Input.request m request) ∈ history →
      ¬r.PresentsAdmin m request) :
    SameTrust now w.state (w.run r history).state := by
  induction history using List.reverseRecOn with
  | nil => exact .refl now w.state
  | append_singleton history e ih =>
    obtain ⟨o, input⟩ := e
    have hlast : (o, input) ∈ history ++ [(o, input)] := List.mem_concat_self
    have hbefore := ih
      (fun o m request hmem => htimes o m request (List.mem_append_left _ hmem))
      (fun o m request hmem => hmodest o m request (List.mem_append_left _ hmem))
    rw [run_concat]
    refine hbefore.trans (sameTrust_step hclosed _ o ?_ ?_)
    · rintro m request rfl
      exact htimes o m request hlast
    · rintro m request rfl
      exact hmodest o m request hlast

/-- As long as no request shows an admin's token, whatever is sent to a relay with a secret leaves what
it trusts as it was: no session is issued or revoked, none is counted as such, and of every session the
store says from the last request on what it said before. -/
theorem trust_kept (hclosed : r.gate.isOpen = false) (w : Running) (history : History) {last : Int}
    (htimes : ∀ o m request, (o, Input.request m request) ∈ history → m.now ≤ last)
    (hmodest : ∀ o m request, (o, Input.request m request) ∈ history →
      ¬r.PresentsAdmin m request) :
    SameTrust last w.state (w.run r history).state ∧
      ∀ before o m request after, history = before ++ (o, .request m request) :: after →
        request.path = "/auth/session" ∨ request.path = "/auth/session/revoke" →
        Declines (requestIdOf m request)
          ((w.run r before).answer r o m request).1.response := by
  refine ⟨Running.sameTrust_run hclosed w history htimes hmodest, ?_⟩
  rintro before o m request after rfl hpath
  have hmem : (o, Input.request m request) ∈ before ++ (o, .request m request) :: after :=
    List.mem_append_right _ List.mem_cons_self
  exact declines_of_answer hclosed (hmodest o m request hmem) hpath _ o

/-- A session that is no admin's asks for another one, opens a connection and sends a frame. -/
def modestHistory (token : String) : History :=
  [(.still, .request ⟨1000, 0, "r1", "s1"⟩ (pocketRequest .post "/auth/session" token)),
    (.still, .request ⟨1100, 0, "r2", "s2"⟩ (pocketRequest .get "/ws" token)),
    (.still, .frame 0 "c1" "\x7b\"type\":\"command\",\"path\":\"/jobs\"\x7d")]

theorem trust_kept_pocket :
    ∃ token c, pocketRelay.gate.signer.verify token 1000 = .ok c ∧
      SameTrust 1100 .initial
        ((Running.unconnected .initial).run pocketRelay (modestHistory token)).state ∧
      Declines "r1" ((Running.unconnected .initial).answer pocketRelay .still ⟨1000, 0, "r1", "s1"⟩
        (pocketRequest .post "/auth/session" token)).1.response := by
  obtain ⟨token, c, hscopes, -, -, -, hstatic, hverify, hshown⟩ := exists_pocketToken
  have hmodest (m : Moment) (method : Method) (path : String) :
      ¬pocketRelay.PresentsAdmin m (pocketRequest method path token) := by
    rintro ⟨other, hother, hadmin⟩
    have hsame : some token = some other :=
      (congrArg Credentials.token (hshown method path)).symm.trans hother
    rw [← Option.some.inj hsame] at hadmin
    rcases hadmin with hadmin | ⟨c', hagain, hadmin⟩
    · exact hstatic hadmin
    · have hread : Gate.pocket.signer.verify token m.now = .ok c' := hagain
      rw [hverify] at hread
      split at hread
      · rw [← Except.ok.inj hread, hscopes] at hadmin
        revert hadmin
        decide
      · cases hread
  have hmem {o : Outside} {m : Moment} {request : Http.Request}
      (h : (o, Input.request m request) ∈ modestHistory token) :
      m.now ≤ 1100 ∧ ∃ method path, request = pocketRequest method path token := by
    simp only [modestHistory, List.mem_cons, Prod.mk.injEq, Input.request.injEq, reduceCtorEq,
      and_false, List.not_mem_nil, or_false] at h
    rcases h with ⟨-, rfl, rfl⟩ | ⟨-, rfl, rfl⟩
    · exact ⟨by decide, _, _, rfl⟩
    · exact ⟨by decide, _, _, rfl⟩
  have hkept := trust_kept isOpen_pocketRelay (.unconnected .initial) (modestHistory token)
    (fun o m request h => (hmem h).1) fun o m request h => by
      obtain ⟨-, method, path, rfl⟩ := hmem h
      exact hmodest m method path
  refine ⟨token, c, hverify 1000, hkept.1, ?_⟩
  exact hkept.2 [] .still _ _ _ rfl (.inl rfl)

end Gatehouse.Relay
