import Gatehouse.Proofs.Revocation.Lasting
import Gatehouse.Proofs.Session.Issuing
import Gatehouse.World.Basic

/-!
# Sessions that were revoked

Revoking a session records an end for it, and as long as that end has not come the gate refuses the
session. Visitors of the store follow each other: some end sessions, some ask to be let in, and some
revocations fail because the file cannot be written. What a store covers until some time stays covered
by every visit before that time, apart from a revocation of the same session with an end that comes
earlier.
-/

namespace Gatehouse

/-! ### Revoking -/

namespace Desk

/-- The outcome of a revocation and the store after it, where writing the store's file meets `fault`. -/
def revoked (d : Desk) (store : Store) (payload : Json.Members) (now : Int)
    (fault : Option String) : Except DeskError RevokedSession × Store :=
  (d.revoke store payload now).result (fun _ => World.refused) fun _ => fault

variable {d : Desk} {store : Store} {payload : Json.Members} {now : Int} {fault : Option String}

/-- A revocation records the end of the session that the payload names, or fails and keeps what there
was. -/
theorem revoked_cases (d : Desk) (store : Store) (payload : Json.Members) (now : Int)
    (fault : Option String) :
    (∃ r already name, d.revocation payload now = .ok r ∧
      Text.nonBlank? r.sessionId = some name ∧
      d.revoked store payload now fault
        = (.ok ⟨r, already⟩, { store with entries := store.entries.record name r.expiresAt now })) ∨
    (∃ e, d.revoked store payload now fault = (.error e, store)) ∨
    ∃ e name expiresAt, d.revoked store payload now fault
      = (.error e, { store with entries := store.entries.undo name expiresAt now }) := by
  cases hr : d.revocation payload now with
  | error e =>
    rw [revoked, revoke, hr]
    exact .inr (.inl ⟨e, rfl⟩)
  | ok r =>
    simp only [revoked, revoke, hr, Exchange.result_map]
    rcases store.revoke_cases r.sessionId r.expiresAt now (fun _ => World.refused) fun _ => fault
      with ⟨name, already, hname, hresult⟩ | ⟨e, hresult⟩ | ⟨e, name, hresult⟩
    · rw [hresult]
      exact .inl ⟨r, already, name, rfl, hname, rfl⟩
    · rw [hresult]
      exact .inr (.inl ⟨_, rfl⟩)
    · rw [hresult]
      exact .inr (.inr ⟨_, name, r.expiresAt, rfl⟩)

theorem of_revoked {s : RevokedSession} {after : Store}
    (h : d.revoked store payload now fault = (.ok s, after)) :
    d.revocation payload now = .ok s.revocation ∧
      Text.nonBlank? s.revocation.sessionId = some (Text.trim s.revocation.sessionId) ∧
      after.entries = store.entries.record (Text.trim s.revocation.sessionId)
        s.revocation.expiresAt now := by
  rcases d.revoked_cases store payload now fault
    with ⟨r, already, name, hr, hname, hresult⟩ | ⟨e, hresult⟩ | ⟨e, name, expiresAt, hresult⟩
  · obtain ⟨hs, hafter⟩ := Prod.mk.inj (hresult.symm.trans h)
    obtain ⟨rfl, -⟩ := Text.nonBlank?_eq_some_iff.mp hname
    rw [← Except.ok.inj hs, ← hafter]
    exact ⟨hr, hname, rfl⟩
  · cases hresult.symm.trans h
  · cases hresult.symm.trans h

theorem revocation_of_token {token : String} {r : Revocation}
    (htoken : Json.Members.text? "token" payload = some token)
    (h : d.revocation payload now = .ok r) :
    ∃ c, d.signer.verify token now = .ok c ∧ r.sessionId = c.sessionId ∧
      r.expiresAt = c.expiresAt := by
  simp only [revocation, htoken] at h
  cases hverify : d.signer.verify token now with
  | error e =>
    rw [hverify] at h
    cases h
  | ok c =>
    obtain ⟨hlive, -⟩ := Signer.verify_of_verify hverify
    simp only [hverify, if_neg (Int.not_le.mpr hlive)] at h
    split at h
    · cases h
    · rw [← Except.ok.inj h]
      exact ⟨c, rfl, rfl, rfl⟩

/-- A session named by its id, without an end that is still to come, is recorded for a day. -/
theorem revocation_of_id {id : String} {r : Revocation}
    (htoken : Json.Members.text? "token" payload = none)
    (hid : Json.Members.text? "session_id" payload = some id)
    (hend : ∀ e, Json.Members.int? "expires_at" payload = some e → e ≤ now) (hnow : 0 ≤ now)
    (h : d.revocation payload now = .ok r) :
    r.sessionId = id ∧ r.expiresAt = now + Session.maxLife := by
  have hpast : (Json.Members.int? "expires_at" payload).getD 0 ≤ now := by
    cases hexpires : Json.Members.int? "expires_at" payload with
    | none => exact hnow
    | some e => exact hend e hexpires
  simp only [revocation, htoken, hid, if_pos hpast] at h
  rw [← Except.ok.inj h]
  exact ⟨rfl, rfl⟩

end Desk

/-! ### Visits -/

/-- What a store is used for: a desk ends a session, where writing the file may meet a fault, or a
gate asks whether a session was ended. -/
inductive Visit where
  | revoke (desk : Desk) (payload : Json.Members) (fault : Option String)
  | authenticate (gate : Gate) (credentials : Credentials)

namespace Store

/-- The revocation that a visit at `now` makes, if it makes one, and the store after it. -/
def visit (store : Store) (now : Int) : Visit → Option Revocation × Store
  | .revoke desk payload fault =>
    let (outcome, store) := desk.revoked store payload now fault
    (outcome.toOption.map RevokedSession.revocation, store)
  | .authenticate gate credentials => (none, (gate.authenticate store credentials now).2)

/-- The revocations that visits make one after the other, and the store after them. -/
def visits (store : Store) : List (Int × Visit) → List Revocation × Store
  | [] => ([], store)
  | (now, visit) :: rest =>
    let (made, store) := store.visit now visit
    let (later, store) := store.visits rest
    (made.toList ++ later, store)

end Store

namespace Ledger.Covers

variable {store : Store} {id : String} {last now : Int}

/-- One visit leaves a session covered, unless it ends the same session earlier. -/
theorem visit (h : store.entries.Covers id last) (hnow : now ≤ last) (v : Visit)
    (hmade : ∀ r ∈ (store.visit now v).1, Text.nonBlank? r.sessionId = some id →
      last < r.expiresAt) :
    (store.visit now v).2.entries.Covers id last := by
  cases v with
  | revoke d payload fault =>
    rcases d.revoked_cases store payload now fault
      with ⟨r, already, name, -, hname, hresult⟩ | ⟨e, hresult⟩ | ⟨e, name, expiresAt, hresult⟩
    · simp only [Store.visit, hresult] at hmade ⊢
      refine (h.record_iff hnow name r.expiresAt).mpr fun hsame => ?_
      exact hmade r rfl (hname.trans (congrArg some hsame))
    · simp only [Store.visit, hresult]
      exact h
    · simp only [Store.visit, hresult]
      exact h.undo hnow name expiresAt
  | authenticate g credentials =>
    rw [Store.visit]
    rcases g.store_authenticate store credentials now with hsame | ⟨asked, hasked⟩
    · rw [hsame]
      exact h
    · rw [hasked, Store.entries_snd_isRevoked]
      exact h.asked hnow asked

theorem visits (h : store.entries.Covers id last) {history : List (Int × Visit)}
    (htimes : ∀ e ∈ history, e.1 ≤ last)
    (hmade : ∀ r ∈ (store.visits history).1, Text.nonBlank? r.sessionId = some id →
      last < r.expiresAt) :
    (store.visits history).2.entries.Covers id last := by
  -- the store changes with every visit, the session and the time that is asked about do not
  induction history generalizing store with
  | nil => exact h
  | cons e history ih =>
    obtain ⟨now, v⟩ := e
    have hfirst : (store.visit now v).2.entries.Covers id last := by
      refine h.visit (htimes (now, v) List.mem_cons_self) v fun r hr => ?_
      exact hmade r (List.mem_append_left _ (Option.mem_toList.mpr hr))
    refine ih hfirst (fun e he => htimes e (List.mem_cons_of_mem _ he)) fun r hr => ?_
    exact hmade r (List.mem_append_right _ hr)

end Ledger.Covers

/-! ### Refusals -/

namespace Gate

variable {g : Gate} {store : Store} {credentials : Credentials} {now : Int}

/-- The token of a session is refused as revoked just while the store covers the session. -/
theorem authenticate_eq_revoked_iff {token : String} {c : Claims} (hopen : g.isOpen = false)
    (htoken : credentials.token = some token) (hstatic : g.staticToken ≠ some token)
    (hverify : g.signer.verify token now = .ok c) :
    (g.authenticate store credentials now).1 = .error .revoked
      ↔ ∃ name, Text.nonBlank? c.sessionId = some name ∧ store.entries.Covers name now := by
  rw [authenticate_eq_admitSession hopen htoken hstatic, admitSession_eq_revoked_iff hverify,
    Ledger.isRevoked_iff]

/-- A token that is refused as revoked at some time is refused then after one more revocation, unless
that one names the token's own session with an end that will have come; a revocation by the token
itself never does. So it is refused then after all visits that do not end its session too early. -/
theorem stays_revoked (h : (g.authenticate store credentials now).1 = .error .revoked) :
    ∃ token c, credentials.token = some token ∧ g.signer.verify token now = .ok c ∧
      (∀ (d : Desk) payload r fault s after, r ≤ now →
        d.revoked store payload r fault = (.ok s, after) →
        ((g.authenticate after credentials now).1 = .error .revoked
            ↔ (Text.trim s.revocation.sessionId = Text.trim c.sessionId →
                now < s.revocation.expiresAt)) ∧
          (d.signer.SameKey g.signer →
            Json.Members.text? "token" payload = some (Text.trim token) →
            (g.authenticate after credentials now).1 = .error .revoked)) ∧
      ∀ history : List (Int × Visit), (∀ e ∈ history, e.1 ≤ now) →
        (∀ r ∈ (store.visits history).1, Text.trim r.sessionId = Text.trim c.sessionId →
          now < r.expiresAt) →
        (g.authenticate (store.visits history).2 credentials now).1 = .error .revoked := by
  obtain ⟨token, c, htoken, hopen, hstatic, hverify, hrevoked⟩ := of_authenticate_revoked h
  obtain ⟨name, hname, hcovers⟩ := Ledger.isRevoked_iff.mp hrevoked
  obtain ⟨rfl, -⟩ := Text.nonBlank?_eq_some_iff.mp hname
  obtain ⟨hlive, hclock⟩ := Signer.verify_of_verify hverify
  have hrefused (s : Store) : (g.authenticate s credentials now).1 = .error .revoked
      ↔ s.entries.Covers (Text.trim c.sessionId) now := by
    rw [authenticate_eq_revoked_iff hopen htoken hstatic hverify, hname]
    simp
  refine ⟨token, c, htoken, hverify, fun d payload r fault s after hr hresult => ?_,
    fun history htimes hmade => ?_⟩
  · obtain ⟨hrevocation, -, hentries⟩ := Desk.of_revoked hresult
    have hafter : (g.authenticate after credentials now).1 = .error .revoked
        ↔ (Text.trim s.revocation.sessionId = Text.trim c.sessionId →
            now < s.revocation.expiresAt) := by
      rw [hrefused, hentries]
      exact hcovers.record_iff hr _ _
    -- the token states its own end, and it has not run out
    refine ⟨hafter, fun hkey hpayload => hafter.mpr fun _ => ?_⟩
    obtain ⟨c', hagain, -, hend⟩ := Desk.revocation_of_token hpayload hrevocation
    rw [hkey.verify_eq, Signer.verify_trim, hclock, if_pos (by omega)] at hagain
    rw [hend, ← Except.ok.inj hagain]
    exact hlive
  · refine (hrefused _).mpr (hcovers.visits htimes fun r hr hsame => hmade r hr ?_)
    exact (Text.nonBlank?_eq_some_iff.mp hsame).1

/-- A store in which the session of the pocket gate was ended for a day at 1100. -/
def pocketEnded : Store :=
  ⟨none, [(pocketId, 87500)]⟩

theorem refused_pocketEnded {token : String} {c : Claims} (hstatic : pocket.staticToken ≠ some token)
    (hsession : c.sessionId = pocketId) (hverify : pocket.signer.verify token 1500 = .ok c) :
    (pocket.authenticate pocketEnded ⟨some token, some "dev-1"⟩ 1500).1 = .error .revoked := by
  refine (authenticate_eq_revoked_iff rfl rfl hstatic hverify).mpr ⟨pocketId, ?_, 87500, rfl, ?_⟩
  · rw [hsession]
    decide
  · decide

theorem stays_revoked_pocket :
    ∃ token, (pocket.authenticate pocketEnded ⟨some token, some "dev-1"⟩ 1500).1 = .error .revoked ∧
      (pocket.authenticate (pocketDesk.revoked pocketEnded
        [("expires_at", .int 1501), ("session_id", .text pocketId)] 1200 none).2
        ⟨some token, some "dev-1"⟩ 1500).1 = .error .revoked := by
  obtain ⟨token, c, -, hstatic, -, hsession, -, -, hverify⟩ := issue_pocket
  have hrefused := refused_pocketEnded hstatic hsession (hverify 1500)
  obtain ⟨_, _, -, -, hone, -⟩ := stays_revoked hrefused
  have hrevoked : pocketDesk.revoked pocketEnded
      [("expires_at", .int 1501), ("session_id", .text pocketId)] 1200 none
        = (.ok ⟨⟨pocketId, "", 1501, .sessionId⟩, true⟩, ⟨none, [(pocketId, 1501)]⟩) := rfl
  refine ⟨token, hrefused, ?_⟩
  rw [hrevoked]
  exact (hone _ _ 1200 _ _ _ (by decide) hrevoked).1.mpr fun _ => by decide

/-- A second revocation by the session's id can bring its end forward, and then the session is let in
again. -/
theorem not_stays_revoked :
    ¬∀ (g : Gate) (d : Desk) (store : Store) (credentials : Credentials) (now : Int)
      (payload : Json.Members) (r : Int) (fault : Option String) (s : RevokedSession)
      (after : Store), d.signer.SameKey g.signer → r ≤ now →
      (g.authenticate store credentials now).1 = .error .revoked →
      d.revoked store payload r fault = (.ok s, after) →
      ∃ e, (g.authenticate after credentials now).1 = .error e := by
  intro hstays
  obtain ⟨token, c, -, hstatic, -, hsession, hdevice, -, hverify⟩ := issue_pocket
  have hrefused := refused_pocketEnded hstatic hsession (hverify 1500)
  have hrevoked : pocketDesk.revoked pocketEnded
      [("expires_at", .int 1200), ("session_id", .text pocketId)] 1100 none
        = (.ok ⟨⟨pocketId, "", 1200, .sessionId⟩, true⟩, ⟨none, [(pocketId, 1200)]⟩) := rfl
  obtain ⟨e, he⟩ := hstays pocket _ pocketEnded _ 1500 _ 1100 none _ _ ⟨rfl, rfl⟩ (by decide)
    hrefused hrevoked
  have hlive : Ledger.isRevoked [(pocketId, 1200)] c.sessionId 1500 = false := by
    rw [hsession]
    decide
  have hadmitted : pocket.device (some "dev-1") c.deviceId = .ok (some "dev-1") := by
    rw [hdevice]
    rfl
  rw [authenticate_eq_admitSession rfl rfl hstatic, admitSession_of_verify (hverify 1500)] at he
  simp only [hlive, hadmitted] at he
  cases he

/-- A session that was ended by its token, or by its id for a day, is refused in every gate with the
key until it would have ended anyway, and from then on as any session that ended. -/
theorem revoked_until_expired {signer : Signer} {key : Bytes} (hseals : signer.Seals key)
    {order : Signer.Order} {id token : String} {start : Int} {c : Claims}
    (hissue : signer.issue order id start = .ok (token, c)) {d : Desk}
    (hdesk : d.signer.SameKey signer) (hgate : g.signer.SameKey signer)
    (hstatic : g.staticToken ≠ some token) {payload : Json.Members} {r : Int}
    {fault : Option String} {ended : RevokedSession} {after : Store} (hstart : 0 ≤ start)
    (hr : start ≤ r) (hlast : r + 86400 < 0x8000000000000000)
    (hrevoked : d.revoked store payload r fault = (.ok ended, after))
    (hnamed : Json.Members.text? "token" payload = some token ∨
      (Json.Members.text? "token" payload = none ∧
        Json.Members.text? "session_id" payload = some id ∧
        ∀ e, Json.Members.int? "expires_at" payload = some e → e ≤ r))
    {history : List (Int × Visit)} (htimes : ∀ e ∈ history, e.1 ≤ now)
    (hothers : ∀ x ∈ (after.visits history).1, Text.trim x.sessionId ≠ Text.trim id)
    (deviceId : Option String) :
    (g.authenticate (after.visits history).2 ⟨some token, deviceId⟩ now).1
      = .error (if now < c.expiresAt then .revoked else .invalidToken .expired) := by
  have hsession := Signer.sessionId_of_issue hissue
  obtain ⟨-, -, hlong⟩ := Signer.life_of_issue hissue
  have hfirst : Text.Fits64 start := by constructor <;> omega
  have hfits : Text.Fits64 c.expiresAt :=
    Signer.fits64_of_issue hissue hfirst (by constructor <;> omega)
  have hverify {s : Signer} (hs : s.SameKey signer) (t : Int) :
      s.verify token t = if t < c.expiresAt then .ok c else .error .expired :=
    Signer.verify_of_issue hseals hs hissue hfirst hfits t
  obtain ⟨hrevocation, hname, hentries⟩ := Desk.of_revoked hrevoked
  -- whichever way the session was named, its record ends no earlier than the session
  have hrecorded : ended.revocation.sessionId = id ∧
      c.expiresAt ≤ ended.revocation.expiresAt := by
    rcases hnamed with htoken | ⟨hnone, hid, hpast⟩
    · obtain ⟨c', hagain, hsame, hend⟩ := Desk.revocation_of_token htoken hrevocation
      rw [hverify hdesk] at hagain
      split at hagain
      · rw [hsame, hend, ← Except.ok.inj hagain]
        exact ⟨hsession, le_refl _⟩
      · cases hagain
    · obtain ⟨hsame, hend⟩ := Desk.revocation_of_id hnone hid hpast (by omega) hrevocation
      rw [hend, Session.maxLife]
      exact ⟨hsame, by omega⟩
  have hopen : g.isOpen = false := isOpen_eq_false (hgate.seals hseals).key_eq
  by_cases hlive : now < c.expiresAt
  · rw [if_pos hlive]
    have hok : g.signer.verify token now = .ok c := by rw [hverify hgate, if_pos hlive]
    have hcovers : after.entries.Covers (Text.trim id) now := by
      rw [hentries, hrecorded.1]
      exact Ledger.covers_record _ _ (by omega) r
    refine (authenticate_eq_revoked_iff hopen rfl hstatic hok).mpr ⟨Text.trim id, ?_, ?_⟩
    · rw [hsession, ← hrecorded.1]
      exact hname
    · refine hcovers.visits htimes fun x hx hsame => absurd ?_ (hothers x hx)
      exact (Text.nonBlank?_eq_some_iff.mp hsame).1
  · rw [if_neg hlive, authenticate_eq_admitSession hopen rfl hstatic]
    exact admitSession_of_verify_error (by rw [hverify hgate, if_neg hlive])

/-- After a session was ended, nobody is let in without credentials and another session is ended. -/
def pocketVisits : List (Int × Visit) :=
  [(1200, .authenticate pocket ⟨none, none⟩),
    (1300, .revoke pocketDesk [("session_id", .text "other")] none)]

theorem revoked_until_expired_pocket :
    ∃ token ended, pocketDesk.revoked .inMemory
        [("token", .text token)] 1100 none = (.ok ended, ⟨none, [(pocketId, 1900)]⟩) ∧
      (pocket.authenticate (Store.visits ⟨none, [(pocketId, 1900)]⟩ pocketVisits).2
        ⟨some token, none⟩ 1899).1 = .error .revoked ∧
      (pocket.authenticate (Store.visits ⟨none, [(pocketId, 1900)]⟩ pocketVisits).2
        ⟨some token, none⟩ 1900).1 = .error (.invalidToken .expired) := by
  obtain ⟨token, c, hissue, hstatic, hblank, hsession, -, hend, hverify⟩ := issue_pocket
  have htoken : Json.Members.text? "token" [("token", .text token)] = some token := hblank
  have hrevocation : pocketDesk.revocation
      [("token", .text token)] 1100 = .ok ⟨pocketId, c.subject, 1900, .token⟩ := by
    have hok : pocketDesk.signer.verify token 1100 = .ok c := hverify 1100
    have hid : Text.trim pocketId ≠ "" := by decide
    simp only [Desk.revocation, htoken, hok, hsession, if_neg hid, hend]
    rfl
  have hstore : Store.inMemory.revoke pocketId 1900 1100
      = .done (.ok false, ⟨none, [(pocketId, 1900)]⟩) := rfl
  have hrevoked : pocketDesk.revoked .inMemory
      [("token", .text token)] 1100 none
        = (.ok ⟨⟨pocketId, c.subject, 1900, .token⟩, false⟩, ⟨none, [(pocketId, 1900)]⟩) := by
    simp only [Desk.revoked, Desk.revoke, hrevocation, hstore]
    rfl
  have hothers : ∀ r ∈ (Store.visits ⟨none, [(pocketId, 1900)]⟩ pocketVisits).1,
      Text.trim r.sessionId ≠ Text.trim pocketId := by
    decide
  refine ⟨token, _, hrevoked, ?_, ?_⟩
  · rw [revoked_until_expired seals_pocket hissue ⟨rfl, rfl⟩ ⟨rfl, rfl⟩ hstatic (by decide)
      (by decide) (by decide) hrevoked (.inl htoken) (by decide) hothers none, hend]
    rfl
  · rw [revoked_until_expired seals_pocket hissue ⟨rfl, rfl⟩ ⟨rfl, rfl⟩ hstatic (by decide)
      (by decide) (by decide) hrevoked (.inl htoken) (by decide) hothers none, hend]
    rfl

end Gate

end Gatehouse
