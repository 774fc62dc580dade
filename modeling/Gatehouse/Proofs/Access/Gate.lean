import Gatehouse.Access.Gate
import Gatehouse.Proofs.Text.Blank
import Gatehouse.Proofs.Text.Items

/-!
# What the gate makes of credentials

Past open access and the static token a gate asks three things in turn: whether the token is verified,
whether its session is revoked, and whether the device will do. `authenticate_cases` and
`admitSession_cases` say this once, with the answer and the store after it, and what follows is read
off them: a refusal as revoked is a verified token and an entry in the store, a refusal of the device
is told by its status alone, and whoever is let in has trimmed names.
-/

namespace Gatehouse

structure Caller.Trimmed (c : Caller) : Prop where
  subject : Text.nonBlank? c.subject = some c.subject
  deviceId : c.deviceId.bind Text.nonBlank? = c.deviceId

namespace Gate

variable {g : Gate} {store : Store} {credentials : Credentials} {now : Int}

theorem isOpen_eq_false {key : Bytes} (h : g.signer.key = some key) : g.isOpen = false := by
  rw [isOpen, Signer.isConfigured, h]
  simp

/-! ### Devices -/

theorem status_of_device {named bound : Option String} {e : AuthFailure}
    (h : g.device named bound = .error e) : e.status = 403 := by
  rw [device] at h
  split at h
  · rw [← Except.error.inj h]
    rfl
  · split at h
    · cases h
    · split at h
      · split at h
        · cases h
        · rw [← Except.error.inj h]
          rfl
      · rw [← Except.error.inj h]
        rfl

theorem status_of_map_device {β : Type} {f : Option String → β} {named bound : Option String}
    {e : AuthFailure} (h : (g.device named bound).map f = .error e) : e.status = 403 := by
  cases hdevice : g.device named bound with
  | ok id =>
    rw [hdevice] at h
    cases h
  | error e' =>
    rw [hdevice] at h
    rw [← Except.error.inj h]
    exact status_of_device hdevice

/-- What a request names as its device suits the device that its session is bound to: it names none
or the same, or the session is bound to none. -/
def Suits (named bound : Option String) : Prop :=
  named.bind Text.nonBlank? = none ∨ bound = none ∨ named.bind Text.nonBlank? = bound

theorem device_eq_ok {named bound : Option String} (hbound : bound.bind Text.nonBlank? = bound)
    (hnamed : Suits named bound)
    (hlisted : g.devices = [] ∨ ∃ id ∈ g.devices, bound = some id) :
    g.device named bound = .ok (bound.or (named.bind Text.nonBlank?)) := by
  have hresolved : (named.bind Text.nonBlank?).or bound
      = bound.or (named.bind Text.nonBlank?) := by
    rcases hnamed with hnone | hnone | hsame
    · rw [hnone, Option.none_or, Option.or_none]
    · rw [hnone, Option.none_or, Option.or_none]
    · rw [hsame]
  have hmatch : ¬(bound.isSome ∧ bound ≠ bound.or (named.bind Text.nonBlank?)) := by
    cases bound with
    | none => simp
    | some id => simp
  rw [device, hbound, hresolved, if_neg hmatch]
  rcases hlisted with hall | ⟨id, hid, rfl⟩
  · rw [if_pos hall]
  · rw [if_neg (List.ne_nil_of_mem hid), Option.some_or]
    exact if_pos hid

theorem device_eq_mismatch {named bound : Option String} (hbound : bound.bind Text.nonBlank? = bound)
    (hnamed : ¬Suits named bound) :
    g.device named bound = .error .deviceMismatch := by
  obtain ⟨hsome, hbinding, hother⟩ : named.bind Text.nonBlank? ≠ none ∧ bound ≠ none ∧
      named.bind Text.nonBlank? ≠ bound := by
    simpa only [Suits, not_or] using hnamed
  obtain ⟨id, hid⟩ := Option.ne_none_iff_exists'.mp hsome
  rw [device, hbound, hid, Option.some_or]
  rw [hid] at hother
  exact if_pos ⟨Option.isSome_iff_ne_none.mpr hbinding, Ne.symm hother⟩

/-! ### Sessions -/

/-- A session token is refused, or the store is asked for its session and then the device is looked
at. -/
theorem admitSession_cases (g : Gate) (store : Store) (token : String) (named : Option String)
    (now : Int) :
    (∃ e, g.signer.verify token now = .error e ∧
      g.admitSession store token named now = (.error (.invalidToken e), store)) ∨
    ∃ c, g.signer.verify token now = .ok c ∧
      g.admitSession store token named now
        = (if store.entries.isRevoked c.sessionId now then .error .revoked
            else (g.device named c.deviceId).map (sessionCaller c),
          (store.isRevoked c.sessionId now).2) := by
  cases hverify : g.signer.verify token now with
  | error e =>
    rw [admitSession, hverify]
    exact .inl ⟨e, rfl, rfl⟩
  | ok c =>
    refine .inr ⟨c, rfl, ?_⟩
    rw [admitSession, hverify]
    cases hrevoked : store.entries.isRevoked c.sessionId now with
    | true => simp only [Store.isRevoked, hrevoked, if_true]
    | false =>
      simp only [Store.isRevoked, hrevoked, Bool.false_eq_true, if_false]
      cases g.device named c.deviceId <;> rfl

theorem admitSession_of_verify {token : String} {named : Option String} {c : Claims}
    (hverify : g.signer.verify token now = .ok c) :
    (g.admitSession store token named now).1
      = if store.entries.isRevoked c.sessionId now then .error .revoked
        else (g.device named c.deviceId).map (sessionCaller c) := by
  obtain ⟨e, herror, -⟩ | ⟨c', hok, hanswer⟩ := g.admitSession_cases store token named now
  · rw [hverify] at herror
    cases herror
  · rw [hanswer, Except.ok.inj (hverify.symm.trans hok)]

theorem admitSession_of_verify_error {token : String} {named : Option String} {e : TokenError}
    (hverify : g.signer.verify token now = .error e) :
    (g.admitSession store token named now).1 = .error (.invalidToken e) := by
  rw [admitSession, hverify]

theorem admitSession_eq_revoked_iff {token : String} {named : Option String} {c : Claims}
    (hverify : g.signer.verify token now = .ok c) :
    (g.admitSession store token named now).1 = .error .revoked
      ↔ store.entries.isRevoked c.sessionId now = true := by
  rw [admitSession_of_verify hverify]
  by_cases hrevoked : store.entries.isRevoked c.sessionId now = true
  · simp [hrevoked]
  · rw [if_neg hrevoked]
    refine iff_of_false (fun hrefused => ?_) hrevoked
    exact absurd (status_of_map_device hrefused) (by decide)

/-! ### Credentials -/

/-- Everyone is let in, or nothing is presented, or the static token, or what may be the token of a
session. -/
theorem authenticate_cases (g : Gate) (store : Store) (credentials : Credentials) (now : Int) :
    (g.isOpen = true ∧ g.authenticate store credentials now = (.ok .openAccess, store)) ∨
    (g.isOpen = false ∧ credentials.token = none ∧
      g.authenticate store credentials now = (.error .missingCredential, store)) ∨
    (g.isOpen = false ∧ (∃ token, credentials.token = some token ∧ g.staticToken = some token) ∧
      g.authenticate store credentials now
        = ((g.device credentials.deviceId none).map .staticToken, store)) ∨
    ∃ token, g.isOpen = false ∧ credentials.token = some token ∧ g.staticToken ≠ some token ∧
      g.authenticate store credentials now
        = g.admitSession store token credentials.deviceId now := by
  cases hopen : g.isOpen with
  | true =>
    rw [authenticate, if_pos hopen]
    exact .inl ⟨rfl, rfl⟩
  | false =>
    rw [authenticate, if_neg (by simp [hopen])]
    cases credentials.token with
    | none => exact .inr (.inl ⟨rfl, rfl, rfl⟩)
    | some token =>
      by_cases hstatic : g.staticToken = some token
      · refine .inr (.inr (.inl ⟨rfl, ⟨token, rfl, hstatic⟩, ?_⟩))
        simp only [if_pos hstatic]
        cases g.device credentials.deviceId none <;> rfl
      · exact .inr (.inr (.inr ⟨token, rfl, rfl, hstatic, if_neg hstatic⟩))

theorem authenticate_eq_admitSession {token : String} (hopen : g.isOpen = false)
    (htoken : credentials.token = some token) (hstatic : g.staticToken ≠ some token) :
    g.authenticate store credentials now
      = g.admitSession store token credentials.deviceId now := by
  rw [authenticate, if_neg (by simp [hopen]), htoken]
  exact if_neg hstatic

/-- Who is refused as revoked has presented a verified token of a session that the store has as
revoked. -/
theorem of_authenticate_revoked (h : (g.authenticate store credentials now).1 = .error .revoked) :
    ∃ token c, credentials.token = some token ∧ g.isOpen = false ∧ g.staticToken ≠ some token ∧
      g.signer.verify token now = .ok c ∧ store.entries.isRevoked c.sessionId now = true := by
  obtain ⟨-, hopen⟩ | ⟨-, -, hmissing⟩ | ⟨-, -, hstatic⟩ | ⟨token, hclosed, htoken, hstatic, hsession⟩ :=
    g.authenticate_cases store credentials now
  · rw [hopen] at h
    cases h
  · rw [hmissing] at h
    cases h
  · rw [hstatic] at h
    exact absurd (status_of_map_device h) (by decide)
  · rw [hsession] at h
    obtain ⟨e, -, hanswer⟩ | ⟨c, hverify, -⟩ :=
      g.admitSession_cases store token credentials.deviceId now
    · rw [hanswer] at h
      cases h
    · exact ⟨token, c, htoken, hclosed, hstatic, hverify,
        (admitSession_eq_revoked_iff hverify).mp h⟩

/-- The store is left as it is, or as it is after it was asked for a session. -/
theorem store_authenticate (g : Gate) (store : Store) (credentials : Credentials) (now : Int) :
    (g.authenticate store credentials now).2 = store ∨
      ∃ id, (g.authenticate store credentials now).2 = (store.isRevoked id now).2 := by
  obtain ⟨-, hopen⟩ | ⟨-, -, hmissing⟩ | ⟨-, -, hstatic⟩ | ⟨token, -, -, -, hsession⟩ :=
    g.authenticate_cases store credentials now
  · exact .inl (congrArg Prod.snd hopen)
  · exact .inl (congrArg Prod.snd hmissing)
  · exact .inl (congrArg Prod.snd hstatic)
  · rw [hsession]
    obtain ⟨e, -, hanswer⟩ | ⟨c, -, hanswer⟩ :=
      g.admitSession_cases store token credentials.deviceId now
    · exact .inl (congrArg Prod.snd hanswer)
    · exact .inr ⟨c.sessionId, congrArg Prod.snd hanswer⟩

/-! ### Callers -/

theorem trimmed_of_device {named bound id : Option String} (h : g.device named bound = .ok id) :
    id.bind Text.nonBlank? = id := by
  have hresolved : id = (named.bind Text.nonBlank?).or (bound.bind Text.nonBlank?) := by
    rw [device] at h
    split at h
    · cases h
    · split at h
      · exact (Except.ok.inj h).symm
      · split at h
        · next name hname =>
          split at h
          · rw [hname]
            exact (Except.ok.inj h).symm
          · cases h
        · cases h
  rw [hresolved]
  exact Text.or_bind_nonBlank? (Text.nonBlank?_bind_nonBlank? named)
    (Text.nonBlank?_bind_nonBlank? bound)

theorem trimmed_staticToken {deviceId : Option String}
    (hdevice : deviceId.bind Text.nonBlank? = deviceId) :
    (Caller.staticToken deviceId).Trimmed where
  subject := by
    have hsubject : Text.nonBlank? "relay-static-token" = some "relay-static-token" := by decide
    exact hsubject
  deviceId := hdevice

theorem trimmed_sessionCaller (c : Claims) {deviceId : Option String}
    (hdevice : deviceId.bind Text.nonBlank? = deviceId) : (sessionCaller c deviceId).Trimmed where
  subject := by
    rw [sessionCaller, Caller.session]
    have hdefault : Text.nonBlank? "session" = some "session" := by decide
    cases hsubject : Text.nonBlank? c.subject with
    | none => exact hdefault
    | some name => exact Text.nonBlank?_of_nonBlank? hsubject
  deviceId := hdevice

theorem trimmed_of_authenticate {caller : Caller}
    (h : (g.authenticate store credentials now).1 = .ok caller) : caller.Trimmed := by
  obtain ⟨-, hopen⟩ | ⟨-, -, hmissing⟩ | ⟨-, -, hstatic⟩ | ⟨token, -, -, -, hsession⟩ :=
    g.authenticate_cases store credentials now
  · rw [hopen] at h
    rw [← Except.ok.inj h]
    exact ⟨by decide, rfl⟩
  · rw [hmissing] at h
    cases h
  · rw [hstatic] at h
    obtain ⟨id, hdevice, rfl⟩ := of_map_eq_ok h
    exact trimmed_staticToken (trimmed_of_device hdevice)
  · rw [hsession] at h
    obtain ⟨e, -, hanswer⟩ | ⟨c, -, hanswer⟩ :=
      g.admitSession_cases store token credentials.deviceId now
    · rw [hanswer] at h
      cases h
    · rw [hanswer] at h
      split at h
      · cases h
      · obtain ⟨id, hdevice, rfl⟩ := of_map_eq_ok h
        exact trimmed_sessionCaller c (trimmed_of_device hdevice)

end Gate

end Gatehouse
