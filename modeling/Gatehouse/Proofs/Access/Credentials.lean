import Gatehouse.Access.Credentials
import Gatehouse.Proofs.Http.Header
import Gatehouse.Proofs.Session.Token
import Gatehouse.Proofs.Text.Split
import Gatehouse.Proofs.Url.Form

/-!
# What a request presents

A token that was issued is visible ASCII without blanks, so it can be sent after the word `Bearer`,
and the gate is shown the token that was sent.
-/

namespace Gatehouse

/-! ### Texts with nothing to trim -/

/-- A text that does not begin with a blank, before one that has nothing to trim. -/
theorem Text.trim_append {s t : String} (hfirst : ∃ c l, s.toList = c :: l ∧ isBlank c = false)
    (ht : nonBlank? t = some t) : trim (s ++ t) = s ++ t := by
  obtain ⟨htrim, hne⟩ := nonBlank?_eq_some_iff.mp ht
  obtain ⟨c, l, hs, hc⟩ := hfirst
  have hchars : trimChars t.toList = t.toList := by
    rw [← String.toList_inj, trim, String.toList_ofList] at htrim
    exact htrim
  have hnil : t.toList ≠ [] := fun h => hne (String.toList_inj.mp h)
  -- what ends in the last character of a trimmed text does not end in a blank
  have hlast : ∀ d, t.toList.getLast? = some d → isBlank d = false := by
    intro d hd
    rw [trimChars, dropEnd_eq_rdropWhile] at hchars
    have hfront : (t.toList.dropWhile isBlank) = t.toList := by
      have hprefix := List.rdropWhile_prefix isBlank (t.toList.dropWhile isBlank)
      rw [hchars] at hprefix
      exact (List.dropWhile_suffix isBlank).sublist.antisymm hprefix.sublist
    rw [hfront, List.rdropWhile_eq_self_iff] at hchars
    have hend := hchars hnil
    rw [List.getLast?_eq_getLast_of_ne_nil hnil] at hd
    rwa [Option.some.inj hd, Bool.not_eq_true] at hend
  rw [trim, String.toList_append, trimChars_eq_self, ← String.toList_append, String.ofList_toList]
  · intro d hd
    rw [hs, List.cons_append, List.head?_cons] at hd
    rwa [← Option.some.inj hd]
  · intro d hd
    rw [List.getLast?_append_of_ne_nil _ hnil] at hd
    exact hlast d hd

namespace Credentials

theorem bearer?_append {token : String} (h : Text.nonBlank? token = some token) :
    bearer? ("Bearer " ++ token) = some token := by
  have htrim : Text.trim ("Bearer " ++ token) = "Bearer " ++ token :=
    Text.trim_append ⟨'B', "earer ".toList, rfl, by decide⟩ h
  have hparts : Text.cutChars ' ' ("Bearer " ++ token).toList
      = some ("Bearer".toList, token.toList) :=
    Text.cutChars_eq_some_iff.mpr ⟨by simp, by decide⟩
  have hcut : Text.cut ' ' ("Bearer " ++ token) = some ("Bearer", token) := by
    rw [Text.cut, hparts]
    simp
  have hscheme : Text.sameLetters "Bearer" "bearer" = true := by decide
  rw [bearer?, htrim, hcut]
  show (if Text.sameLetters "Bearer" "bearer" then Text.nonBlank? token else none) = some token
  rw [if_pos hscheme, h]

theorem token_ofRequest {token : String} (hblank : Text.nonBlank? token = some token)
    (hlegible : Header.Legible token) {h : Headers}
    (hfield : h.first? "authorization" = some (Utf8.encode ("Bearer " ++ token))) (path : String)
    (query : Option String) : (ofRequest h path query).token = some token := by
  have hword : Header.Legible "Bearer " := by decide
  have hsent : Header.Legible ("Bearer " ++ token) := by
    intro c hc
    rw [String.toList_append, List.mem_append] at hc
    rcases hc with hc | hc
    · exact hword c hc
    · exact hlegible c hc
  have htext : h.text? "authorization" = some ("Bearer " ++ token) := by
    rw [Headers.text?, hfield, Option.bind_some, hsent.text?_encode]
  rw [ofRequest, htext, Option.bind_some, bearer?_append hblank, Option.some_or]

theorem ofRequest_realtimePath (h : Headers) (query : Option String) :
    ofRequest h Route.realtimePath query =
      ⟨((h.text? "authorization").bind bearer?).or (Form.value? query "token"),
        (h.trimmed? "x-device-id").or (Form.value? query "device_id")⟩ := by
  simp only [ofRequest, if_true]

/-- A blank token in the query of a realtime connection hides the tokens behind it. -/
theorem token_of_hides {h : Headers} {query : String} (hfield : h.text? "authorization" = none)
    (hhides : Form.Hides (Form.pairs query) "token") :
    (ofRequest h Route.realtimePath (some query)).token = none := by
  rw [ofRequest_realtimePath, hfield, hhides.value?_eq]
  rfl

/-- A blank device id there hides the ids behind it. -/
theorem deviceId_of_hides {h : Headers} {query : String} (hfield : h.trimmed? "x-device-id" = none)
    (hhides : Form.Hides (Form.pairs query) "device_id") :
    (ofRequest h Route.realtimePath (some query)).deviceId = none := by
  rw [ofRequest_realtimePath, hfield, hhides.value?_eq]
  rfl

end Credentials

namespace Signer

theorem legible_letter {n : Nat} (h : n < 64) :
    0x20 ≤ (Base64Url.letter n).toNat ∧ (Base64Url.letter n).toNat ≤ 0x7E := by
  revert n
  decide

theorem legible_encode (bytes : Bytes) : Header.Legible (Base64Url.encode bytes) := by
  intro c hc
  obtain ⟨n, hn, rfl⟩ := Base64Url.mem_encode hc
  exact .inr (legible_letter hn)

theorem legible_of_issue {s : Signer} {order : Order} {sessionId token : String} {now : Int}
    {c : Claims} (h : s.issue order sessionId now = .ok (token, c)) : Header.Legible token := by
  obtain ⟨key, scopes, -, -, -, rfl⟩ := of_issue h
  have hmark : Header.Legible mark := by decide
  intro d hd
  rw [Signer.token, body, signature, toList_joined] at hd
  simp only [List.mem_append, List.mem_cons] at hd
  rcases hd with hd | rfl | hd | rfl | hd
  · exact hmark d hd
  · decide
  · exact legible_encode _ d hd
  · decide
  · exact legible_encode _ d hd

end Signer

end Gatehouse
