import Gatehouse.Proofs.Access.Scope
import Gatehouse.Proofs.Seal.Base64Url
import Gatehouse.Proofs.Session.Claims
import Gatehouse.Proofs.Text.Split
import Gatehouse.Session.Token

/-!
# Verifying a token that was issued

A token is cut at its dots into the segments it was made of, its seal is the one that is computed
again, and its second segment holds the claims. What is left of a verification is the clock, so a
token is good for its claims until they run out and for nothing afterwards. Of the seal it matters
only that it is never empty, since an empty segment is refused.
-/

namespace Gatehouse

theorem Session.life_bounds (requested : Option Int) (default : Int) :
    minLife ≤ life requested default ∧ life requested default ≤ maxLife := by
  simp only [life, minLife, maxLife]
  omega

theorem Hmac.sha256_ne_nil (key message : Bytes) : sha256 key message ≠ [] := by
  rw [sha256, Sha256.hash]
  exact List.cons_ne_nil _ _

/-- Claims as they are sealed: scopes without repetition, at least one, a device that has a name, and
times that have room in the written form. -/
structure Claims.Sealable (c : Claims) : Prop where
  scopes_ne_nil : c.scopes ≠ []
  scopes_nodup : c.scopes.Nodup
  device_ne_empty : c.deviceId ≠ some ""
  expires : Text.Fits64 c.expiresAt
  issued : Text.Fits64 c.issuedAt

namespace Signer

/-- A signer with this key, whose seals are not empty. -/
structure Seals (s : Signer) (key : Bytes) : Prop where
  key_eq : s.key = some key
  mac_ne_nil : ∀ message, s.mac key message ≠ []

theorem seals_ofKey {key : String} (h : key ≠ "") (defaultLife : Int) :
    (ofKey (some key) defaultLife).Seals (Utf8.encode key) where
  key_eq := by simp [ofKey, Option.filter, h]
  mac_ne_nil := Hmac.sha256_ne_nil (Utf8.encode key)

/-- Two signers with one key, whatever lives they give. -/
structure SameKey (s t : Signer) : Prop where
  key_eq : s.key = t.key
  mac_eq : s.mac = t.mac

namespace SameKey

variable {s t : Signer}

theorem signature_eq (h : SameKey s t) : s.signature = t.signature := by
  funext key body
  rw [signature, signature, h.mac_eq]

theorem verify_eq (h : SameKey s t) (token : String) (now : Int) :
    s.verify token now = t.verify token now := by
  rw [verify, verify, h.key_eq, h.signature_eq]

theorem seals (h : SameKey s t) {key : Bytes} (hseals : t.Seals key) : s.Seals key where
  key_eq := h.key_eq.trans hseals.key_eq
  mac_ne_nil message := by
    rw [h.mac_eq]
    exact hseals.mac_ne_nil message

end SameKey

/-! ### Segments -/

theorem plain_letter {n : Nat} (h : n < 64) :
    Base64Url.letter n ≠ '.' ∧ Text.isBlank (Base64Url.letter n) = false := by
  revert n
  decide

theorem plain_of_mem_encode {bytes : Bytes} {c : Char} (h : c ∈ (Base64Url.encode bytes).toList) :
    c ≠ '.' ∧ Text.isBlank c = false := by
  obtain ⟨n, hn, rfl⟩ := Base64Url.mem_encode h
  exact plain_letter hn

theorem toList_joined (content mac : Bytes) :
    (mark ++ "." ++ Base64Url.encode content ++ "." ++ Base64Url.encode mac).toList
      = mark.toList ++ '.' :: ((Base64Url.encode content).toList
          ++ '.' :: (Base64Url.encode mac).toList) := by
  simp

theorem trim_joined (content mac : Bytes) :
    Text.trim (mark ++ "." ++ Base64Url.encode content ++ "." ++ Base64Url.encode mac)
      = mark ++ "." ++ Base64Url.encode content ++ "." ++ Base64Url.encode mac := by
  refine Text.trim_of_forall fun c hc => ?_
  rw [toList_joined] at hc
  simp only [List.mem_append, List.mem_cons] at hc
  rcases hc with hc | rfl | hc | rfl | hc
  · exact Text.not_blank_of_all (by decide) c hc
  · decide
  · exact (plain_of_mem_encode hc).2
  · decide
  · exact (plain_of_mem_encode hc).2

theorem segments?_encode {content mac : Bytes} (hcontent : content ≠ []) (hmac : mac ≠ []) :
    segments? (mark ++ "." ++ Base64Url.encode content ++ "." ++ Base64Url.encode mac)
      = some (Base64Url.encode content, Base64Url.encode mac) := by
  have hmark : '.' ∉ mark.toList := by decide
  have hnodot {bytes : Bytes} : '.' ∉ (Base64Url.encode bytes).toList := fun hmem =>
    (plain_of_mem_encode hmem).1 rfl
  have hsplit : Text.split '.' (mark ++ "." ++ Base64Url.encode content ++ "."
      ++ Base64Url.encode mac) = [mark, Base64Url.encode content, Base64Url.encode mac] := by
    rw [Text.split, toList_joined, Text.splitChars_append_sep, Text.splitChars_append_sep,
      Text.splitChars_of_not_mem hmark, Text.splitChars_of_not_mem hnodot,
      Text.splitChars_of_not_mem hnodot]
    simp
  rw [segments?, trim_joined, hsplit]
  exact if_pos ⟨rfl, Base64Url.encode_ne_empty hcontent, Base64Url.encode_ne_empty hmac⟩

/-- A token has no blanks around it, so a payload that holds it names it as it is. -/
theorem nonBlank?_token (s : Signer) (key : Bytes) (c : Claims) :
    Text.nonBlank? (s.token key c) = some (s.token key c) := by
  refine Text.nonBlank?_eq_some_iff.mpr ⟨trim_joined _ _, fun hempty => ?_⟩
  have hchars := congrArg String.toList hempty
  rw [token, body, signature, toList_joined] at hchars
  cases hchars

theorem head?_token (s : Signer) (key : Bytes) (c : Claims) :
    (s.token key c).toList.head? = some 'n' := by
  simp [token, mark]

/-! ### Claims -/

theorem encode_write_ne_nil (c : Claims) : Utf8.encode c.write ≠ [] := by
  intro hempty
  have hblank := Json.isBlankBody_encode_object c.members
  rw [← Claims.write, hempty] at hblank
  cases hblank

theorem payload?_body {c : Claims} (hexpires : Text.Fits64 c.expiresAt)
    (hissued : Text.Fits64 c.issuedAt) : payload? (body c) = some c.fields := by
  rw [payload?, body, Base64Url.decode?_encode]
  exact Claims.ofBytes?_write hexpires hissued

theorem accept_fields {c : Claims} (h : c.Sealable) (now : Int) :
    accept c.fields now = if now < c.expiresAt then .ok c else .error .expired := by
  have hexpires : c.fields.expiresAt = c.expiresAt := rfl
  have hscopes : Scope.normalize c.fields.scopes = .ok c.scopes :=
    Scope.normalize_map_name h.scopes_ne_nil h.scopes_nodup
  have hdevice : c.fields.deviceId.filter (· ≠ "") = c.deviceId := by
    cases hd : c.deviceId with
    | none => rw [Claims.fields, hd, Option.filter_none]
    | some d =>
      have hname : d ≠ "" := fun hempty => h.device_ne_empty (hempty ▸ hd)
      rw [Claims.fields, hd, Option.filter_some, if_pos (decide_eq_true hname)]
  rw [accept, hexpires, hscopes, hdevice]
  by_cases hlive : now < c.expiresAt
  · rw [if_neg (Int.not_le.mpr hlive), if_pos hlive]
    rfl
  · rw [if_pos (Int.not_lt.mp hlive), if_neg hlive]

/-- Verifying the token of some claims looks at the clock and at nothing else. -/
theorem verify_token {s : Signer} {key : Bytes} (hseals : s.Seals key) {c : Claims}
    (hsealable : c.Sealable) (now : Int) :
    s.verify (s.token key c) now = if now < c.expiresAt then .ok c else .error .expired := by
  have hcut : segments? (s.token key c) = some (body c, s.signature key (body c)) :=
    segments?_encode (encode_write_ne_nil c) (hseals.mac_ne_nil (Utf8.encode (body c)))
  rw [verify, hseals.key_eq]
  simp only [hcut, payload?_body hsealable.expires hsealable.issued, ne_eq, not_true_eq_false,
    if_false]
  exact accept_fields hsealable now

theorem accept_of_accept {f : Claims.Fields String} {now : Int} {c : Claims}
    (h : accept f now = .ok c) :
    now < c.expiresAt ∧ ∀ t, accept f t = if t < c.expiresAt then .ok c else .error .expired := by
  rw [accept] at h
  split at h
  · cases h
  · next hlive =>
    split at h
    · cases h
    · next scopes hscopes =>
      have hend : c.expiresAt = f.expiresAt := by rw [← Except.ok.inj h]
      rw [hend]
      refine ⟨Int.not_le.mp hlive, fun t => ?_⟩
      rw [accept, hscopes]
      by_cases ht : t < f.expiresAt
      · rw [if_neg (Int.not_le.mpr ht), if_pos ht]
        exact h
      · rw [if_pos (Int.not_lt.mp ht), if_neg ht]

/-- Of a token that is verified once, the clock alone decides whether it is verified again. -/
theorem verify_of_verify {s : Signer} {token : String} {now : Int} {c : Claims}
    (h : s.verify token now = .ok c) :
    now < c.expiresAt ∧
      ∀ t, s.verify token t = if t < c.expiresAt then .ok c else .error .expired := by
  have hread : ∃ f, ∀ t, s.verify token t = accept f t := by
    cases hkey : s.key with
    | none =>
      rw [verify, hkey] at h
      cases h
    | some key =>
      simp only [verify, hkey] at h ⊢
      split at h
      · cases h
      · split at h
        · cases h
        · next hmatch =>
          split at h
          · cases h
          · next f _ => exact ⟨f, fun t => if_neg hmatch⟩
  obtain ⟨f, hread⟩ := hread
  obtain ⟨hlive, haccept⟩ := accept_of_accept ((hread now).symm.trans h)
  exact ⟨hlive, fun t => (hread t).trans (haccept t)⟩

theorem segments?_trim (token : String) : segments? (Text.trim token) = segments? token := by
  rw [segments?, segments?, Text.trim_trim]

theorem verify_trim (s : Signer) (token : String) (now : Int) :
    s.verify (Text.trim token) now = s.verify token now := by
  rw [verify, verify, segments?_trim]

/-! ### Issuing -/

theorem sealable_claims {s : Signer} {order : Order} {scopes : List Scope}
    (hscopes : Scope.normalize order.scopes = .ok scopes) {sessionId : String} {now : Int}
    (hissued : Text.Fits64 now)
    (hexpires : Text.Fits64 (s.claims order scopes sessionId now).expiresAt) :
    (s.claims order scopes sessionId now).Sealable where
  scopes_ne_nil := (Scope.of_normalize hscopes).1
  scopes_nodup := (Scope.of_normalize hscopes).2
  device_ne_empty := by
    intro hempty
    obtain ⟨d, -, hd⟩ := Option.bind_eq_some_iff.mp hempty
    exact Text.nonBlank?_ne_empty hd rfl
  expires := hexpires
  issued := hissued

theorem issue_eq_ok {s : Signer} {key : Bytes} (hkey : s.key = some key) {order : Order}
    {scopes : List Scope} (hscopes : Scope.normalize order.scopes = .ok scopes) (sessionId : String)
    (now : Int) :
    s.issue order sessionId now
      = .ok (s.token key (s.claims order scopes sessionId now),
          s.claims order scopes sessionId now) := by
  rw [issue, hkey]
  simp only [hscopes]

theorem of_issue {s : Signer} {order : Order} {sessionId token : String} {now : Int} {c : Claims}
    (h : s.issue order sessionId now = .ok (token, c)) :
    ∃ key scopes, s.key = some key ∧ Scope.normalize order.scopes = .ok scopes ∧
      c = s.claims order scopes sessionId now ∧ token = s.token key c := by
  rw [issue] at h
  split at h
  · cases h
  · next key hkey =>
    split at h
    · cases h
    · next scopes hscopes =>
      obtain ⟨htoken, hclaims⟩ := Prod.mk.inj (Except.ok.inj h)
      exact ⟨key, scopes, hkey, hscopes, hclaims.symm, by rw [← htoken, hclaims]⟩

theorem sessionId_of_issue {s : Signer} {order : Order} {sessionId token : String} {start : Int}
    {c : Claims} (h : s.issue order sessionId start = .ok (token, c)) : c.sessionId = sessionId := by
  obtain ⟨-, scopes, -, -, rfl, -⟩ := of_issue h
  rfl

theorem life_of_issue {s : Signer} {order : Order} {sessionId token : String} {start : Int}
    {c : Claims} (h : s.issue order sessionId start = .ok (token, c)) :
    c.issuedAt = start ∧ start + 60 ≤ c.expiresAt ∧ c.expiresAt ≤ start + 86400 := by
  obtain ⟨-, scopes, -, -, rfl, -⟩ := of_issue h
  obtain ⟨hlow, hhigh⟩ := Session.life_bounds order.life s.defaultLife
  have hend : (s.claims order scopes sessionId start).expiresAt
      = start + Session.life order.life s.defaultLife := rfl
  rw [Session.minLife] at hlow
  rw [Session.maxLife] at hhigh
  refine ⟨rfl, ?_, ?_⟩
  · omega
  · omega

theorem fits64_of_issue {s : Signer} {order : Order} {sessionId token : String} {start : Int}
    {c : Claims} (h : s.issue order sessionId start = .ok (token, c)) (hstart : Text.Fits64 start)
    (hlast : Text.Fits64 (start + 86400)) : Text.Fits64 c.expiresAt := by
  obtain ⟨-, hlow, hhigh⟩ := life_of_issue h
  obtain ⟨hfirst, -⟩ := hstart
  obtain ⟨-, hend⟩ := hlast
  constructor
  · omega
  · omega

theorem verify_of_issue {s t : Signer} {key : Bytes} (hseals : s.Seals key) (hsame : t.SameKey s)
    {order : Order} {sessionId token : String} {start : Int} {c : Claims}
    (h : s.issue order sessionId start = .ok (token, c)) (hissued : Text.Fits64 start)
    (hexpires : Text.Fits64 c.expiresAt) (now : Int) :
    t.verify token now = if now < c.expiresAt then .ok c else .error .expired := by
  obtain ⟨key', scopes, hkey, hscopes, rfl, rfl⟩ := of_issue h
  obtain rfl : key = key' := Option.some.inj (hseals.key_eq.symm.trans hkey)
  rw [hsame.verify_eq]
  exact verify_token hseals (sealable_claims hscopes hissued hexpires) now

/-- A session that is issued lasts from a minute to a day from then, and its token is verified as the
claims that were issued until the session ends. -/
theorem verify_issue {s : Signer} {key : Bytes} (hseals : s.Seals key) (order : Order)
    {scopes : List Scope} (hscopes : Scope.normalize order.scopes = .ok scopes)
    (sessionId : String) {now : Int} (hnow : Text.Fits64 now) (hlast : Text.Fits64 (now + 86400)) :
    ∃ token c, s.issue order sessionId now = .ok (token, c) ∧
      c.subject = Text.trim order.subject ∧ c.scopes = scopes ∧
      c.deviceId = order.deviceId.bind Text.nonBlank? ∧ c.sessionId = sessionId ∧
      c.issuedAt = now ∧ 60 ≤ c.expiresAt - c.issuedAt ∧ c.expiresAt - c.issuedAt ≤ 86400 ∧
      ∀ t, s.verify token t = if t < c.expiresAt then .ok c else .error .expired := by
  have hissue := issue_eq_ok hseals.key_eq hscopes sessionId now
  obtain ⟨hissued, hlow, hhigh⟩ := life_of_issue hissue
  have hfits := fits64_of_issue hissue hnow hlast
  have hsame : s.SameKey s := ⟨rfl, rfl⟩
  refine ⟨_, _, hissue, rfl, rfl, rfl, rfl, hissued, ?_, ?_, ?_⟩
  · omega
  · omega
  · intro t
    exact verify_of_issue hseals hsame hissue hnow hfits t

theorem verify_issue_phone :
    ∃ token c, (ofKey (some "signing-key") 900).issue
        ⟨" phone ", ["Run", " read", "run"], some "\tdev-1", some 120⟩
        "5f2b6c0e9d134a7f8e21b3c4d5a69780" 1000 = .ok (token, c) ∧
      c.subject = "phone" ∧ c.scopes = [.run, .read] ∧ c.deviceId = some "dev-1" ∧
      (ofKey (some "signing-key") 900).verify token 1059 = .ok c ∧
      (ofKey (some "signing-key") 900).verify token 87400 = .error .expired := by
  have hseals : (ofKey (some "signing-key") 900).Seals (Utf8.encode "signing-key") :=
    seals_ofKey (by decide) 900
  have hscopes : Scope.normalize ["Run", " read", "run"] = .ok [.run, .read] := by decide
  have hnow : Text.Fits64 1000 := by decide
  obtain ⟨token, c, hissue, hsubject, hread, hdevice, -, hissued, hlow, hhigh, hverify⟩ :=
    verify_issue hseals ⟨" phone ", ["Run", " read", "run"], some "\tdev-1", some 120⟩ hscopes
      "5f2b6c0e9d134a7f8e21b3c4d5a69780" hnow (by decide)
  refine ⟨token, c, hissue, hsubject.trans (by decide), hread, hdevice.trans (by decide), ?_, ?_⟩
  · rw [hverify, if_pos (by omega)]
  · rw [hverify, if_neg (by omega)]

end Signer

end Gatehouse
