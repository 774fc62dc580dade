import Gatehouse.Proofs.Access.Gate
import Gatehouse.Proofs.Json.Edges
import Gatehouse.Proofs.Session.Token
import Gatehouse.Session.Desk

/-!
# Sessions that were issued

What a session is asked for is trimmed before the desk looks at it: the fields of a payload where
they are read, and the names of the caller where the gate took them. So the desk compares with the
listed devices what the gate will compare later, and the gate finds in the claims the names that it
hands on.
-/

namespace Gatehouse

/-! ### Orders -/

theorem Json.Members.nonBlank?_of_text? {name s : String} {m : Json.Members}
    (h : text? name m = some s) : Text.nonBlank? s = some s := by
  rw [text?] at h
  split at h
  · exact Text.nonBlank?_of_nonBlank? h
  · cases h
  · next v htext _ _ =>
    rw [← Option.some.inj h]
    exact nonBlank?_write fun t hv => htext t hv
  · cases h

theorem Json.Members.text?_bind_nonBlank? (name : String) (m : Json.Members) :
    (text? name m).bind Text.nonBlank? = text? name m := by
  cases h : text? name m with
  | none => rfl
  | some s => rw [Option.bind_some, nonBlank?_of_text? h]

namespace Desk

variable {d : Desk} {caller : Caller} {payload : Json.Members}

theorem nonBlank?_subject_order (hcaller : caller.Trimmed) :
    Text.nonBlank? (order caller payload).subject = some (order caller payload).subject := by
  rw [order]
  cases h : Json.Members.text? "subject" payload with
  | none => exact hcaller.subject
  | some s => exact Json.Members.nonBlank?_of_text? h

theorem deviceId_order_bind_nonBlank? (hcaller : caller.Trimmed) :
    (order caller payload).deviceId.bind Text.nonBlank? = (order caller payload).deviceId :=
  Text.or_bind_nonBlank? (Json.Members.text?_bind_nonBlank? "device_id" payload) hcaller.deviceId

/-! ### Issuing -/

theorem listed_iff (devices : List String) (deviceId : Option String) :
    ¬(devices ≠ [] ∧ deviceId.all fun id => !devices.contains id)
      ↔ devices = [] ∨ ∃ id ∈ devices, deviceId = some id := by
  by_cases hall : devices = []
  · simp [hall]
  · cases deviceId with
    | none => simp [hall]
    | some id => simp [hall]

/-- A session is issued just if its token can be made and its device is listed, where any are. -/
theorem issue_eq_ok_iff {sessionId : String} {now : Int} {s : IssuedSession} :
    d.issue caller payload sessionId now = .ok s
      ↔ d.signer.issue (order caller payload) sessionId now = .ok (s.token, s.claims) ∧
        (d.devices = [] ∨ ∃ id ∈ d.devices, (order caller payload).deviceId = some id) := by
  rw [← listed_iff]
  constructor
  · intro h
    rw [issue] at h
    split at h
    · cases h
    · split at h
      · cases h
      · next hlisted =>
        cases hissue : d.signer.issue (order caller payload) sessionId now with
        | error e =>
          rw [hissue] at h
          cases h
        | ok issued =>
          rw [hissue] at h
          rw [← Except.ok.inj h]
          exact ⟨rfl, hlisted⟩
  · rintro ⟨hissue, hlisted⟩
    rw [issue]
    split
    · next first rest hdevices hid =>
      -- without a device the list would have to be empty
      rw [hdevices, hid] at hlisted
      exact absurd ⟨List.cons_ne_nil first rest, rfl⟩ hlisted
    · rw [if_neg hlisted, hissue]

theorem claims_of_issue (hcaller : caller.Trimmed) {sessionId : String} {now : Int}
    {s : IssuedSession} (h : d.issue caller payload sessionId now = .ok s) :
    Text.nonBlank? s.claims.subject = some s.claims.subject ∧
      s.claims.deviceId.bind Text.nonBlank? = s.claims.deviceId ∧
      (d.devices = [] ∨ ∃ id ∈ d.devices, s.claims.deviceId = some id) := by
  obtain ⟨hissue, hdevices⟩ := issue_eq_ok_iff.mp h
  obtain ⟨key, scopes, -, -, hclaims, -⟩ := Signer.of_issue hissue
  have hsubject : s.claims.subject = (order caller payload).subject := by
    rw [hclaims]
    exact (Text.nonBlank?_eq_some_iff.mp (nonBlank?_subject_order hcaller)).1
  have hdevice : s.claims.deviceId = (order caller payload).deviceId := by
    rw [hclaims]
    exact deviceId_order_bind_nonBlank? hcaller
  rw [hsubject, hdevice]
  exact ⟨nonBlank?_subject_order hcaller, deviceId_order_bind_nonBlank? hcaller, hdevices⟩

end Desk

namespace Gate

variable {g : Gate} {d : Desk} {caller : Caller} {payload : Json.Members}

theorem sessionCaller_eq {c : Claims} (hsubject : Text.nonBlank? c.subject = some c.subject)
    (deviceId : Option String) :
    sessionCaller c deviceId
      = .session c.subject c.sessionId deviceId (.ofList c.scopes) c.expiresAt := by
  rw [sessionCaller, hsubject, Option.getD_some]

/-- A session that the desk issued to a caller of the gate is let in from the devices that suit it and
from no other, as the session that was issued; from another device it is forbidden. -/
theorem authenticate_issued {key : Bytes} (hseals : d.signer.Seals key)
    (hkey : g.signer.SameKey d.signer) (hdevices : g.devices = d.devices) {before : Store}
    {credentials : Credentials} {earlier : Int}
    (hcaller : (g.authenticate before credentials earlier).1 = .ok caller) {sessionId : String}
    {start : Int} {s : IssuedSession} (hissue : d.issue caller payload sessionId start = .ok s)
    (hstart : Text.Fits64 start) (hend : Text.Fits64 s.claims.expiresAt)
    (hstatic : g.staticToken ≠ some s.token) {now : Int} (hnow : now < s.claims.expiresAt)
    {store : Store} (hlive : (store.isRevoked s.claims.sessionId now).1 = false)
    (named : Option String) :
    ((∃ admitted, (g.authenticate store ⟨some s.token, named⟩ now).1 = .ok admitted)
        ↔ Suits named s.claims.deviceId) ∧
      (∀ admitted, (g.authenticate store ⟨some s.token, named⟩ now).1 = .ok admitted →
        admitted = .session s.claims.subject s.claims.sessionId
          (s.claims.deviceId.or (named.bind Text.nonBlank?)) (.ofList s.claims.scopes)
          s.claims.expiresAt) ∧
      ∀ e, (g.authenticate store ⟨some s.token, named⟩ now).1 = .error e → e.status = 403 := by
  obtain ⟨hsubject, hbound, hlisted⟩ := Desk.claims_of_issue (trimmed_of_authenticate hcaller) hissue
  obtain ⟨hsigned, -⟩ := Desk.issue_eq_ok_iff.mp hissue
  have hopen : g.isOpen = false := isOpen_eq_false (hkey.seals hseals).key_eq
  have hverify : g.signer.verify s.token now = .ok s.claims := by
    rw [Signer.verify_of_issue hseals hkey hsigned hstart hend, if_pos hnow]
  rw [Store.fst_isRevoked] at hlive
  have hsession : (g.authenticate store ⟨some s.token, named⟩ now).1
      = (g.device named s.claims.deviceId).map (sessionCaller s.claims) := by
    rw [authenticate_eq_admitSession hopen rfl hstatic, admitSession_of_verify hverify, hlive]
    rfl
  rw [hsession]
  -- what is left is the device; the desk has already compared the bound one with the list
  by_cases hsuits : Suits named s.claims.deviceId
  · rw [device_eq_ok hbound hsuits (hdevices ▸ hlisted), Except.map, sessionCaller_eq hsubject]
    refine ⟨⟨fun _ => hsuits, fun _ => ⟨_, rfl⟩⟩, ?_, ?_⟩
    · intro admitted hadmitted
      exact (Except.ok.inj hadmitted).symm
    · intro e he
      cases he
  · rw [device_eq_mismatch hbound hsuits, Except.map]
    refine ⟨⟨?_, fun h => absurd h hsuits⟩, ?_, ?_⟩
    · rintro ⟨admitted, hadmitted⟩
      cases hadmitted
    · intro admitted hadmitted
      cases hadmitted
    · intro e he
      rw [← Except.error.inj he]
      rfl

/-! ### A gate with one device -/

def pocket : Gate :=
  .of (some "static-token") (.ofKey (some "signing-key") 900) ["dev-1"]

def pocketDesk : Desk :=
  ⟨pocket.signer, pocket.devices⟩

def pocketId : String :=
  "5f2b6c0e9d134a7f8e21b3c4d5a69780"

theorem seals_pocket : pocket.signer.Seals (Utf8.encode "signing-key") :=
  Signer.seals_ofKey (by decide) 900

/-- The holder of the static token is given a session for a quarter of an hour. -/
theorem issue_pocket :
    ∃ token c, pocket.signer.issue
        (Desk.order (.staticToken (some "dev-1")) [("subject", .text " phone ")]) pocketId 1000
          = .ok (token, c) ∧
      pocket.staticToken ≠ some token ∧ Text.nonBlank? token = some token ∧
      c.sessionId = pocketId ∧ c.deviceId = some "dev-1" ∧ c.expiresAt = 1900 ∧
      ∀ t, pocket.signer.verify token t = if t < 1900 then .ok c else .error .expired := by
  have hscopes : Scope.normalize (Desk.order (.staticToken (some "dev-1"))
      [("subject", .text " phone ")]).scopes = .ok Scope.operational := by decide
  have hissue := Signer.issue_eq_ok seals_pocket.key_eq hscopes pocketId 1000
  refine ⟨_, _, hissue, ?_, Signer.nonBlank?_token _ _ _, rfl, by decide, by decide, fun t => ?_⟩
  · intro hsame
    have hhead := congrArg (fun t => t.toList.head?) (Option.some.inj hsame)
    rw [Signer.head?_token] at hhead
    exact absurd hhead (by decide)
  · exact Signer.verify_of_issue seals_pocket ⟨rfl, rfl⟩ hissue (by decide) (by decide) t

theorem authenticate_issued_pocket :
    ∃ s, pocketDesk.issue (.staticToken (some "dev-1"))
        [("subject", .text " phone ")] pocketId 1000 = .ok s ∧
      (∃ admitted, (pocket.authenticate .inMemory ⟨some s.token, some "dev-1 "⟩ 1899).1
        = .ok admitted) ∧
      ¬∃ admitted, (pocket.authenticate .inMemory ⟨some s.token, some "dev-2"⟩ 1899).1
        = .ok admitted := by
  obtain ⟨token, c, hsigned, hstatic, -, hsession, hdevice, hend, -⟩ := issue_pocket
  have hcaller : (pocket.authenticate .inMemory ⟨some "static-token", some "dev-1"⟩ 1000).1
      = .ok (.staticToken (some "dev-1")) := rfl
  have hissue : pocketDesk.issue (.staticToken (some "dev-1"))
      [("subject", .text " phone ")] pocketId 1000 = .ok ⟨token, c⟩ :=
    Desk.issue_eq_ok_iff.mpr ⟨hsigned, .inr ⟨"dev-1", by decide, by decide⟩⟩
  have hfits : Text.Fits64 c.expiresAt := by
    rw [hend]
    decide
  have hnow : 1899 < c.expiresAt := by omega
  have hlive : (Store.inMemory.isRevoked c.sessionId 1899).1 = false := by
    rw [hsession]
    decide
  have hresult := authenticate_issued seals_pocket ⟨rfl, rfl⟩ rfl hcaller hissue (by decide) hfits
    hstatic hnow hlive
  refine ⟨⟨token, c⟩, hissue, (hresult (some "dev-1 ")).1.mpr ?_, fun hadmitted => ?_⟩
  · rw [hdevice]
    exact .inr (.inr (by decide))
  · have hsuits := (hresult (some "dev-2")).1.mp hadmitted
    rw [hdevice] at hsuits
    exact absurd hsuits (by simp only [Suits]; decide)

end Gate

end Gatehouse
