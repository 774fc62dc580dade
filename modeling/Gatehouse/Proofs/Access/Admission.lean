import Gatehouse.Proofs.Access.Gate
import Gatehouse.Proofs.Relay.Gated
import Gatehouse.Proofs.Revocation.Ledger
import Gatehouse.Proofs.Session.Issuing

/-!
# Whom a gate lets in, and with what

A token is worth something to a gate on its own, before any device is looked at: it is the static
token, or it stands for verified claims of a session that is not revoked. With a token that is worth
something the device alone decides; with any other the answer is 401, whatever the device. So a
status of 403 tells that the token was good, and the scopes of whoever is let in are those that the
token is worth.
-/

namespace Gatehouse

/-- What a token is worth to a gate. -/
inductive Credit where
  | staticToken
  | session (c : Claims)

namespace Credit

def bound? : Credit → Option String
  | staticToken => none
  | session c => c.deviceId

def caller : Credit → Option String → Caller
  | staticToken => .staticToken
  | session c => Gate.sessionCaller c

/-- A caller holds what its token is worth at `now`, and no more. -/
def Backs (now : Int) : Credit → Caller → Prop
  | staticToken, caller => caller.kind = .staticToken ∧ caller.scopes = .full
  | session c, caller => caller.kind = .session ∧ (∀ s, caller.scopes.has s = true ↔ s ∈ c.scopes) ∧
      caller.expiresAt = some c.expiresAt ∧ now < c.expiresAt

end Credit

theorem Credit.Backs.kind_ne {now : Int} {credit : Credit} {caller : Caller}
    (h : credit.Backs now caller) : caller.kind ≠ .openAccess := by
  cases credit with
  | staticToken =>
    rw [h.1]
    decide
  | session c =>
    rw [h.1]
    decide

namespace Gate

variable {g : Gate} {store : Store} {credentials : Credentials} {now : Int} {token : String}
  {credit : Credit}

/-- A token that is worth something to a gate at `now`. -/
inductive Honours (g : Gate) (store : Store) (now : Int) (token : String) : Credit → Prop where
  | staticToken (same : g.staticToken = some token) : Honours g store now token .staticToken
  | session (c : Claims) (other : g.staticToken ≠ some token)
    (verified : g.signer.verify token now = .ok c)
    (live : (store.isRevoked c.sessionId now).1 = false) : Honours g store now token (.session c)

/-- The device of a request will do: what it names suits what its token is bound to, and the one or
the other is listed, where devices are listed. -/
structure Passes (g : Gate) (named bound : Option String) : Prop where
  suits : Suits named (bound.bind Text.nonBlank?)
  listed : g.devices = [] ∨
    ∃ id ∈ g.devices, (named.bind Text.nonBlank?).or (bound.bind Text.nonBlank?) = some id

/-! ### Devices -/

theorem suits_iff (named bound : Option String) :
    Suits named bound
      ↔ ¬(bound.isSome ∧ bound ≠ (named.bind Text.nonBlank?).or bound) := by
  rw [Suits]
  cases named.bind Text.nonBlank? with
  | none => simp
  | some name =>
    cases bound with
    | none => simp
    | some id => simp [eq_comm]

theorem device_eq_ok_iff (g : Gate) (named bound : Option String) :
    (∃ id, g.device named bound = .ok id) ↔ g.Passes named bound := by
  rw [device]
  constructor
  · rintro ⟨id, h⟩
    split at h
    · cases h
    · next hmatch =>
      refine ⟨(suits_iff _ _).mpr hmatch, ?_⟩
      split at h
      · next hall => exact .inl hall
      · split at h
        · next name hname =>
          split at h
          · next hlisted => exact .inr ⟨name, hlisted, hname⟩
          · cases h
        · cases h
  · intro h
    rw [if_neg ((suits_iff _ _).mp h.suits)]
    obtain hall | ⟨id, hid, hresolved⟩ := h.listed
    · rw [if_pos hall]
      exact ⟨_, rfl⟩
    · rw [if_neg (List.ne_nil_of_mem hid), hresolved]
      exact ⟨some id, if_pos hid⟩

/-! ### Tokens -/

/-- With a token that is worth something the device alone decides. -/
theorem authenticate_of_honours (hclosed : g.isOpen = false)
    (htoken : credentials.token = some token) (h : g.Honours store now token credit) :
    (g.authenticate store credentials now).1
      = (g.device credentials.deviceId credit.bound?).map credit.caller := by
  cases h with
  | staticToken same =>
    show _ = (g.device credentials.deviceId none).map Caller.staticToken
    rw [authenticate, if_neg (by simp [hclosed]), htoken]
    simp only [if_pos same]
    cases g.device credentials.deviceId none <;> rfl
  | session c other verified live =>
    rw [Store.fst_isRevoked] at live
    rw [authenticate_eq_admitSession hclosed htoken other, admitSession_of_verify verified, live]
    rfl

theorem status_of_not_honours (hclosed : g.isOpen = false)
    (h : ∀ token credit, credentials.token = some token → ¬g.Honours store now token credit) :
    ∃ e, (g.authenticate store credentials now).1 = .error e ∧ e.status = 401 := by
  obtain ⟨hopen, -⟩ | ⟨-, -, hmissing⟩ | ⟨-, ⟨token, htoken, hsame⟩, -⟩ |
      ⟨token, -, htoken, hother, hsession⟩ :=
    g.authenticate_cases store credentials now
  · rw [hclosed] at hopen
    cases hopen
  · exact ⟨.missingCredential, congrArg Prod.fst hmissing, rfl⟩
  · exact absurd (.staticToken hsame) (h token .staticToken htoken)
  · rw [hsession]
    obtain ⟨e, -, hanswer⟩ | ⟨c, hverify, hanswer⟩ :=
      g.admitSession_cases store token credentials.deviceId now
    · exact ⟨.invalidToken e, congrArg Prod.fst hanswer, rfl⟩
    · have hrevoked : store.entries.isRevoked c.sessionId now = true := by
        by_contra hlive
        rw [Bool.not_eq_true] at hlive
        exact h token (.session c) htoken (.session c hother hverify hlive)
      refine ⟨.revoked, ?_, rfl⟩
      rw [hanswer, hrevoked]
      rfl

theorem authenticate_honours_cases (hclosed : g.isOpen = false) (store : Store)
    (credentials : Credentials) (now : Int) :
    (∃ token credit, credentials.token = some token ∧ g.Honours store now token credit ∧
      (g.authenticate store credentials now).1
        = (g.device credentials.deviceId credit.bound?).map credit.caller) ∨
    ∃ e, (g.authenticate store credentials now).1 = .error e ∧ e.status = 401 := by
  by_cases h : ∃ token credit, credentials.token = some token ∧ g.Honours store now token credit
  · obtain ⟨token, credit, htoken, hworth⟩ := h
    exact .inl ⟨token, credit, htoken, hworth, authenticate_of_honours hclosed htoken hworth⟩
  · refine .inr (status_of_not_honours hclosed fun token credit htoken hworth => ?_)
    exact h ⟨token, credit, htoken, hworth⟩

theorem Honours.backs (h : g.Honours store now token credit) (deviceId : Option String) :
    credit.Backs now (credit.caller deviceId) := by
  cases h with
  | staticToken same => exact ⟨rfl, rfl⟩
  | session c other verified live =>
    refine ⟨rfl, fun s => ?_, rfl, (Signer.verify_of_verify verified).1⟩
    show (ScopeSet.ofList c.scopes).has s = true ↔ s ∈ c.scopes
    rw [ScopeSet.has_ofList, List.contains_iff_mem]

/-! ### The store -/

/-- Asking who someone is changes nothing that the store says from then on. -/
theorem isRevoked_authenticate (g : Gate) (store : Store) (credentials : Credentials) {t : Int}
    (hle : now ≤ t) (id : String) :
    ((g.authenticate store credentials now).2.isRevoked id t).1 = (store.isRevoked id t).1 := by
  obtain hsame | ⟨asked, hasked⟩ := g.store_authenticate store credentials now
  · rw [hsame]
  · -- what the ledger says counts as ends of its own
    let ends : Ends := fun key => Keyed.get? key store.entries
    have hbefore : Ledger.Tracks now store.entries ends := fun key => rfl
    have hafter := (hbefore.asked asked).mono hle
    rw [hasked, Store.fst_isRevoked, Store.fst_isRevoked, Store.entries_snd_isRevoked,
      hafter.isRevoked_eq, (hbefore.mono hle).isRevoked_eq]

/-! ### Open relays -/

theorem isOpen_of_iff (staticToken key : Option String) (life : Int) (devices : List String) :
    (Gate.of staticToken (.ofKey key life) devices).isOpen = true
      ↔ staticToken.filter (· ≠ "") = none ∧ key.filter (· ≠ "") = none := by
  simp only [isOpen, Gate.of, Signer.isConfigured, Signer.ofKey]
  cases staticToken.filter (· ≠ "") <;> cases key.filter (· ≠ "") <;> simp

theorem filter_nonBlank? (o : Option String) :
    (o.bind Text.nonBlank?).filter (· ≠ "") = o.bind Text.nonBlank? := by
  cases h : o.bind Text.nonBlank? with
  | none => rfl
  | some s =>
    obtain ⟨t, -, ht⟩ := Option.bind_eq_some_iff.mp h
    have hne : s ≠ "" := (Text.nonBlank?_eq_some_iff.mp (Text.nonBlank?_of_nonBlank? ht)).2
    simp [hne]

theorem ofConfig_of_start {s : Core.Surroundings} {c : Config} {start : Int} {r : Relay}
    {st : Relay.State} (h : Relay.start s c start = .ok (r, st)) :
    ∃ client networks, r = .ofConfig c.normalized client networks := by
  simp only [Relay.start, bind, Except.bind, pure, Except.pure] at h
  split at h
  · cases h
  · next networks _ =>
    split at h
    · cases h
    · next client _ =>
      split at h
      · cases h
      · exact ⟨client, networks, (congrArg Prod.fst (Except.ok.inj h)).symm⟩

theorem isOpen_ofConfig_iff (c : Config) (client : Core.Client) (networks : List Network) :
    (Relay.ofConfig c.normalized client networks).gate.isOpen = true
      ↔ c.staticToken.bind Text.nonBlank? = none ∧ c.signingKey.bind Text.nonBlank? = none := by
  show (Gate.of (c.staticToken.bind Text.nonBlank?) (.ofKey ((c.signingKey.bind Text.nonBlank?).or
    (c.staticToken.bind Text.nonBlank?)) _) _).isOpen = true ↔ _
  rw [isOpen_of_iff, filter_nonBlank?]
  refine and_congr_right fun hstatic => ?_
  -- without a static token the signing key is all there is to sign with
  rw [hstatic, Option.or_none, filter_nonBlank?]

theorem authenticate_of_no_token (g : Gate) (store : Store) (deviceId : Option String) (now : Int) :
    (∃ caller, (g.authenticate store ⟨none, deviceId⟩ now).1 = .ok caller) ↔ g.isOpen = true := by
  obtain ⟨hopen, hanswer⟩ | ⟨hclosed, -, hanswer⟩ | ⟨-, ⟨token, htoken, -⟩, -⟩ |
      ⟨token, -, htoken, -, -⟩ :=
    g.authenticate_cases store ⟨none, deviceId⟩ now
  · rw [hanswer]
    exact ⟨fun _ => hopen, fun _ => ⟨_, rfl⟩⟩
  · rw [hanswer, hclosed]
    refine ⟨?_, fun h => by cases h⟩
    rintro ⟨caller, h⟩
    cases h
  · cases htoken
  · cases htoken

/-! ### Admission -/

theorem authenticate_of_passes (hclosed : g.isOpen = false)
    (htoken : credentials.token = some token) (hworth : g.Honours store now token credit)
    (hpasses : g.Passes credentials.deviceId credit.bound?) :
    ∃ caller, (g.authenticate store credentials now).1 = .ok caller := by
  obtain ⟨id, hdevice⟩ := (g.device_eq_ok_iff _ _).mpr hpasses
  rw [authenticate_of_honours hclosed htoken hworth, hdevice]
  exact ⟨credit.caller id, rfl⟩

theorem of_authenticate_ok (hclosed : g.isOpen = false) {caller : Caller}
    (h : (g.authenticate store credentials now).1 = .ok caller) :
    ∃ token credit, credentials.token = some token ∧ g.Honours store now token credit ∧
      g.Passes credentials.deviceId credit.bound? ∧ credit.Backs now caller := by
  obtain ⟨token, credit, htoken, hworth, hdecided⟩ | ⟨e, herror, -⟩ :=
    authenticate_honours_cases hclosed store credentials now
  · obtain ⟨id, hdevice, rfl⟩ := of_map_eq_ok (hdecided.symm.trans h)
    have hpasses := (g.device_eq_ok_iff _ _).mp ⟨id, hdevice⟩
    exact ⟨token, credit, htoken, hworth, hpasses, hworth.backs id⟩
  · rw [herror] at h
    cases h

theorem status_eq_forbidden_iff (hclosed : g.isOpen = false) {e : AuthFailure}
    (h : (g.authenticate store credentials now).1 = .error e) :
    e.status = 403 ↔ ∃ token credit, credentials.token = some token ∧
      g.Honours store now token credit ∧ ¬g.Passes credentials.deviceId credit.bound? := by
  constructor
  · intro hstatus
    obtain ⟨token, credit, htoken, hworth, -⟩ | ⟨e', herror, hstatus'⟩ :=
      authenticate_honours_cases hclosed store credentials now
    · refine ⟨token, credit, htoken, hworth, fun hpasses => ?_⟩
      obtain ⟨caller, hok⟩ := authenticate_of_passes hclosed htoken hworth hpasses
      rw [hok] at h
      cases h
    · rw [herror] at h
      rw [Except.error.inj h, hstatus] at hstatus'
      cases hstatus'
  · rintro ⟨token, credit, htoken, hworth, -⟩
    rw [authenticate_of_honours hclosed htoken hworth] at h
    exact status_of_map_device h

/-- A gate with a secret lets in whoever presents a token that is worth something from a device that
will do, and grants what the token is worth. It answers 403 just where the device alone was wrong, and
its questions leave the answers of the store as they are. A relay is set up with the gate of its
normalized settings, and lets in a request without a token just if the settings name neither a static
token nor a signing key. -/
theorem admits_exactly (hclosed : g.isOpen = false) (store : Store) (credentials : Credentials)
    (now : Int) :
    ((∃ caller, (g.authenticate store credentials now).1 = .ok caller)
        ↔ ∃ token credit, credentials.token = some token ∧ g.Honours store now token credit ∧
          g.Passes credentials.deviceId credit.bound?) ∧
      (∀ caller, (g.authenticate store credentials now).1 = .ok caller →
        caller.kind ≠ .openAccess ∧ ∃ token credit, credentials.token = some token ∧
          g.Honours store now token credit ∧ credit.Backs now caller) ∧
      (∀ e, (g.authenticate store credentials now).1 = .error e →
        (e.status = 403 ↔ ∃ token credit, credentials.token = some token ∧
          g.Honours store now token credit ∧ ¬g.Passes credentials.deviceId credit.bound?)) ∧
      (∀ id t, now ≤ t →
        ((g.authenticate store credentials now).2.isRevoked id t).1 = (store.isRevoked id t).1) ∧
      (∀ s c start r st, Relay.start s c start = .ok (r, st) →
        ∃ client networks, r = .ofConfig c.normalized client networks) ∧
      ∀ (c : Config) client networks st m (request : Http.Request),
        (Credentials.ofRequest request.headers request.path request.query).token = none →
          ((∃ caller,
              (Relay.ofConfig c.normalized client networks).callerOf st m request = .ok caller)
            ↔ c.staticToken.bind Text.nonBlank? = none ∧
              c.signingKey.bind Text.nonBlank? = none) := by
  refine ⟨⟨?_, ?_⟩, ?_, fun e he => status_eq_forbidden_iff hclosed he,
    fun id t hle => isRevoked_authenticate g store credentials hle id, ?_, ?_⟩
  · rintro ⟨caller, h⟩
    obtain ⟨token, credit, htoken, hworth, hpasses, -⟩ := of_authenticate_ok hclosed h
    exact ⟨token, credit, htoken, hworth, hpasses⟩
  · rintro ⟨token, credit, htoken, hworth, hpasses⟩
    exact authenticate_of_passes hclosed htoken hworth hpasses
  · intro caller h
    obtain ⟨token, credit, htoken, hworth, -, hbacks⟩ := of_authenticate_ok hclosed h
    exact ⟨hbacks.kind_ne, token, credit, htoken, hworth, hbacks⟩
  · intro s c start r st h
    exact ofConfig_of_start h
  · intro c client networks st m request hnone
    rw [← isOpen_ofConfig_iff c client networks, ← authenticate_of_no_token _ st.store
      (Credentials.ofRequest request.headers request.path request.query).deviceId m.now, ← hnone]
    exact Iff.rfl

/-- The holder of the static token is let in from the listed device and forbidden from another; a blank
signing key alone leaves a relay open. -/
theorem admits_exactly_pocket :
    (∃ caller, (pocket.authenticate .inMemory ⟨some "static-token", some "dev-1"⟩ 1000).1
        = .ok caller) ∧
      (∀ e, (pocket.authenticate .inMemory ⟨some "static-token", some "dev-2"⟩ 1000).1 = .error e →
        e.status = 403) ∧
      ∃ caller, (Relay.ofConfig ({ Config.default with signingKey := some " " }).normalized
        Relay.unrestricted.client []).callerOf .initial ⟨0, 0, "r1", "s1"⟩ Relay.runRequest
          = .ok caller := by
  have hclosed : pocket.isOpen = false := isOpen_eq_false seals_pocket.key_eq
  have hworth : pocket.Honours .inMemory 1000 "static-token" .staticToken := .staticToken (by decide)
  have hlisted := admits_exactly hclosed .inMemory ⟨some "static-token", some "dev-1"⟩ 1000
  have hother := admits_exactly hclosed .inMemory ⟨some "static-token", some "dev-2"⟩ 1000
  have hpasses : pocket.Passes (some "dev-1") none := ⟨.inr (.inl rfl), .inr ⟨"dev-1", by decide⟩⟩
  refine ⟨hlisted.1.mpr ⟨_, _, rfl, hworth, hpasses⟩, ?_, ?_⟩
  · intro e herror
    refine (hother.2.2.1 e herror).mpr ⟨_, _, rfl, hworth, fun h => ?_⟩
    obtain hall | ⟨id, hid, hnamed⟩ := h.listed
    · cases hall
    · rw [List.mem_singleton.mp hid] at hnamed
      exact absurd hnamed (by decide)
  · exact (hlisted.2.2.2.2.2 { Config.default with signingKey := some " " }
      Relay.unrestricted.client [] .initial ⟨0, 0, "r1", "s1"⟩ Relay.runRequest (by decide)).mpr
        ⟨rfl, by decide⟩

end Gate

end Gatehouse
