import Gatehouse.Proofs.Session.Issuing

/-!
# Tokens have one text

A token is accepted just if its text is the mark, a body and the seal of that body, where the body is
the one written form of its bytes and the bytes are the record of claims that have not run out and
name known scopes. The seal is compared as it is written, so nothing of a token can be written in
another way: the bytes of the body fix the body, and the body fixes the seal.
-/

namespace Gatehouse.Signer

/-- How a token reads that is accepted at `now`: the bytes that its body stands for, and the fields
that these are read as. Names of scopes that are blank ask for nothing. -/
structure Genuine (s : Signer) (key : Bytes) (now : Int) (token body : String) (content : Bytes)
    (f : Claims.Fields String) : Prop where
  text : Text.trim token
    = mark ++ "." ++ body ++ "." ++ Base64Url.encode (s.mac key (Utf8.encode body))
  body_ne_empty : body ≠ ""
  seal_ne_nil : s.mac key (Utf8.encode body) ≠ []
  decodes : Base64Url.decode? body = some content
  record : (Json.Written.ofBytes? content).bind (Claims.Fields.ofWritten? Json.Written.text?)
    = some f
  live : now < f.expiresAt
  known : ∀ n ∈ f.scopes, Scope.fold n = "" ∨ ∃ scope : Scope, scope.name = Scope.fold n

def content? (token : String) : Option Bytes :=
  (segments? token).bind fun parts => Base64Url.decode? parts.1

variable {s : Signer} {key : Bytes} {now : Int} {token body : String} {content : Bytes}
  {f : Claims.Fields String}

/-! ### Parts of a token -/

theorem text_of_segments? {signature : String} (h : segments? token = some (body, signature)) :
    Text.trim token = mark ++ "." ++ body ++ "." ++ signature ∧ body ≠ "" ∧ signature ≠ "" := by
  rw [segments?] at h
  split at h
  · next first second third hsplit =>
    split at h
    · next hparts =>
      obtain ⟨rfl, hbody, hsignature⟩ := hparts
      obtain ⟨rfl, rfl⟩ := Prod.mk.inj (Option.some.inj h)
      have hpieces := Text.flatMap_split '.' (Text.trim token)
      rw [hsplit] at hpieces
      refine ⟨?_, hbody, hsignature⟩
      rw [← String.toList_inj]
      simpa using (List.cons.inj hpieces).2.symm
    · cases h
  · cases h

theorem payload?_eq_some_iff :
    payload? body = some f ↔ ∃ content, Base64Url.decode? body = some content ∧
      (Json.Written.ofBytes? content).bind (Claims.Fields.ofWritten? Json.Written.text?)
        = some f := by
  rw [payload?]
  exact Option.bind_eq_some_iff

theorem exists_accept_iff :
    (∃ c, accept f now = .ok c) ↔ now < f.expiresAt ∧
      ∀ n ∈ f.scopes, Scope.fold n = "" ∨ ∃ scope : Scope, scope.name = Scope.fold n := by
  rw [← Scope.exists_normalize_iff]
  constructor
  · rintro ⟨c, h⟩
    rw [accept] at h
    split at h
    · cases h
    · next hlive =>
      split at h
      · cases h
      · next scopes hscopes => exact ⟨Int.not_le.mp hlive, scopes, hscopes⟩
  · rintro ⟨hlive, scopes, hscopes⟩
    rw [accept, if_neg (Int.not_le.mpr hlive), hscopes]
    exact ⟨_, rfl⟩

/-! ### Acceptance -/

theorem genuine_of_verify (hkey : s.key = some key) {c : Claims} (h : s.verify token now = .ok c) :
    ∃ body content f, s.Genuine key now token body content f := by
  simp only [verify, hkey] at h
  split at h
  · cases h
  · next body sealed hsegments =>
    split at h
    · cases h
    · next hsignature =>
      rw [ne_eq, Decidable.not_not] at hsignature
      split at h
      · cases h
      · next f hpayload =>
        obtain ⟨htext, hbody, hne⟩ := text_of_segments? hsegments
        obtain ⟨content, hdecodes, hrecord⟩ := payload?_eq_some_iff.mp hpayload
        obtain ⟨hlive, hknown⟩ := exists_accept_iff.mp ⟨c, h⟩
        rw [← hsignature] at htext hne
        have hseal : s.mac key (Utf8.encode body) ≠ [] := by
          intro hnil
          rw [Signer.signature, hnil] at hne
          exact hne rfl
        exact ⟨body, content, f, htext, hbody, hseal, hdecodes, hrecord, hlive, hknown⟩

namespace Genuine

theorem body_eq (h : s.Genuine key now token body content f) :
    body = Base64Url.encode content :=
  (Base64Url.encode_of_decode? h.decodes).symm

theorem segments?_eq (h : s.Genuine key now token body content f) :
    segments? token = some (body, s.signature key body) := by
  have hcontent : content ≠ [] := by
    rintro rfl
    exact h.body_ne_empty h.body_eq
  have hcut := segments?_encode hcontent h.seal_ne_nil
  rwa [← h.body_eq, ← h.text, segments?_trim] at hcut

theorem content?_eq (h : s.Genuine key now token body content f) :
    content? token = some content := by
  rw [content?, h.segments?_eq]
  exact h.decodes

theorem exists_verify (hkey : s.key = some key) (h : s.Genuine key now token body content f) :
    ∃ c, s.verify token now = .ok c := by
  obtain ⟨c, hc⟩ := exists_accept_iff.mpr ⟨h.live, h.known⟩
  have hpayload : payload? body = some f := payload?_eq_some_iff.mpr ⟨content, h.decodes, h.record⟩
  refine ⟨c, ?_⟩
  simp only [verify, hkey, h.segments?_eq, ne_eq, not_true_eq_false, if_false, hpayload]
  exact hc

end Genuine

/-- A token is accepted just if it is genuine, and what two accepted tokens say differs if they differ
in more than the blanks around them. -/
theorem accepts_genuine_only (hkey : s.key = some key) :
    (∀ token now, (∃ c, s.verify token now = .ok c)
        ↔ ∃ body content f, s.Genuine key now token body content f) ∧
      ∀ token token' now now' c c', s.verify token now = .ok c → s.verify token' now' = .ok c' →
        content? token = content? token' → Text.trim token = Text.trim token' := by
  constructor
  · intro token now
    constructor
    · rintro ⟨c, hc⟩
      exact genuine_of_verify hkey hc
    · rintro ⟨body, content, f, hgenuine⟩
      exact hgenuine.exists_verify hkey
  · intro token token' now now' c c' h h' hsame
    obtain ⟨body, content, f, hgenuine⟩ := genuine_of_verify hkey h
    obtain ⟨body', content', f', hgenuine'⟩ := genuine_of_verify hkey h'
    rw [hgenuine.content?_eq, hgenuine'.content?_eq] at hsame
    obtain rfl : content = content' := Option.some.inj hsame
    rw [hgenuine.text, hgenuine'.text, hgenuine.body_eq, hgenuine'.body_eq]

/-- A token that was issued is genuine with a line end after it too, and no other text of it is. -/
theorem accepts_genuine_only_pocket :
    ∃ token c, Gate.pocket.signer.verify token 1000 = .ok c ∧
      (∃ body content f, Gate.pocket.signer.Genuine (Utf8.encode "signing-key") 1000
        (token ++ "\n") body content f) ∧
      ∀ other c', Gate.pocket.signer.verify other 1899 = .ok c' →
        content? token = content? other → Text.trim token = Text.trim other := by
  obtain ⟨token, c, -, -, hblank, -, -, -, hverify⟩ := Gate.issue_pocket
  obtain ⟨hgenuine, hunique⟩ := accepts_genuine_only Gate.seals_pocket.key_eq
  have haccepted : Gate.pocket.signer.verify token 1000 = .ok c := by
    rw [hverify, if_pos (by decide)]
  have hended : Text.trim (token ++ "\n") = token := by
    rw [Text.trim, String.toList_append, show "\n".toList = ['\n'] from rfl,
      Text.trimChars_concat (by decide)]
    exact (Text.nonBlank?_eq_some_iff.mp hblank).1
  refine ⟨token, c, haccepted, (hgenuine _ 1000).mp ⟨c, ?_⟩, fun other c' h hsame => ?_⟩
  · rw [← verify_trim, hended, haccepted]
  · exact hunique token other 1000 1899 c c' haccepted h hsame

end Gatehouse.Signer
