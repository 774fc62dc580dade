import Gatehouse.Proofs.Json.Fields
import Gatehouse.Session.Claims

/-!
# Claims that were written

A session's claims come back from their written form with every field as it was, also those that are
left out when they are empty. Scopes come back as names. The two times have to fit the 64 bits that
they are written in.
-/

namespace Gatehouse.Claims

variable (c : Claims)

/-! ### Members -/

theorem keys_members : (c.members.map Prod.fst).Sublist fieldNames := by
  have hscopes : (["scopes"] : List String).Sublist ["scopes"] := List.Sublist.refl _
  have htimes : (["exp", "iat"] : List String).Sublist ["exp", "iat"] := List.Sublist.refl _
  have hfields : fieldNames = (((["sub"] ++ ["scopes"]) ++ ["device_id"]) ++ ["jti"]) ++
      ["exp", "iat"] := rfl
  rw [members, List.map_append, List.map_append, List.map_append, List.map_append, hfields]
  -- each field that may be left out is a part of its own
  refine (((List.Sublist.append ?_ hscopes).append ?_).append ?_).append htimes
  · split <;> simp
  · cases c.deviceId <;> simp
  · split <;> simp

theorem exact_object_members : Json.Exact (.object c.members) := by
  refine .object fun p hp => ?_
  simp only [members, List.mem_append] at hp
  rcases hp with (((hp | hp) | hp) | hp) | hp
  · split at hp
    · cases hp
    · rw [List.mem_singleton.mp hp]
      exact .text _
  · rw [List.mem_singleton.mp hp]
    refine .list fun v hv => ?_
    obtain ⟨s, -, rfl⟩ := List.mem_map.mp hv
    exact .text _
  · cases hdevice : c.deviceId with
    | none =>
      rw [hdevice] at hp
      cases hp
    | some d =>
      rw [hdevice] at hp
      rw [List.mem_singleton.mp hp]
      exact .text _
  · split at hp
    · cases hp
    · rw [List.mem_singleton.mp hp]
      exact .text _
  · simp only [List.mem_cons, List.not_mem_nil, or_false] at hp
    rcases hp with rfl | rfl
    · exact .integer _
    · exact .integer _

theorem get?_members :
    Keyed.get? "sub" c.members = (if c.subject = "" then none else some (.text c.subject)) ∧
      Keyed.get? "scopes" c.members = some (.list ((c.scopes.map Scope.name).map .text)) ∧
      Keyed.get? "device_id" c.members = c.deviceId.map .text ∧
      Keyed.get? "jti" c.members = (if c.sessionId = "" then none else some (.text c.sessionId)) ∧
      Keyed.get? "exp" c.members = some (.int c.expiresAt) ∧
      Keyed.get? "iat" c.members = some (.int c.issuedAt) := by
  rw [members]
  simp only [Keyed.get?_append]
  by_cases hsubject : c.subject = "" <;> by_cases hsession : c.sessionId = "" <;>
    cases c.deviceId <;> simp [hsubject, hsession, Keyed.get?]

/-! ### Reading -/

theorem text_of_get? {name s : String} {members : Json.Members}
    (h : Keyed.get? name members = if s = "" then none else some (.text s)) :
    Json.field? Json.Written.text? "" name (members.map fun p => (p.1, Json.tree p.2))
      = some s := by
  rw [Json.field?_map, h]
  by_cases hs : s = ""
  · rw [if_pos hs, Option.elim_none, hs]
  · rw [if_neg hs, Option.elim_some, Json.text?_tree]

theorem device_of_get? {name : String} {d : Option String} {members : Json.Members}
    (h : Keyed.get? name members = d.map .text) :
    Json.field? (Json.nullable Json.Written.text?) none name
      (members.map fun p => (p.1, Json.tree p.2)) = some d := by
  rw [Json.field?_map, h]
  cases d with
  | none => rfl
  | some s =>
    rw [Option.map_some, Option.elim_some]
    have hread := Json.text?_tree s
    rw [Json.tree] at hread ⊢
    rw [Json.nullable, hread, Option.map_some]
    intro hnull
    cases hnull

def fields : Fields String where
  subject := c.subject
  scopes := c.scopes.map Scope.name
  deviceId := c.deviceId
  sessionId := c.sessionId
  expiresAt := c.expiresAt
  issuedAt := c.issuedAt

variable {c}

theorem ofWritten?_tree (hexpires : Text.Fits64 c.expiresAt) (hissued : Text.Fits64 c.issuedAt) :
    Fields.ofWritten? Json.Written.text? (Json.tree (.object c.members)) = some c.fields := by
  obtain ⟨hsubject, hscopes, hdevice, hsession, hexp, hiat⟩ := c.get?_members
  have hknown : ∀ p ∈ c.members, p.1 ∈ fieldNames := fun p hp =>
    c.keys_members.subset (List.mem_map_of_mem hp)
  have hdistinct : (c.members.map Prod.fst).Nodup := c.keys_members.nodup (by decide)
  rw [Fields.ofWritten?, Json.fields?_tree hknown hdistinct]
  simp only [Option.bind_eq_bind, Option.bind_some, text_of_get? hsubject,
    text_of_get? hsession, device_of_get? hdevice,
    Json.field?_map, Json.required?_map, hscopes, hexp, hiat, Option.elim_some,
    Json.listOf?_text?_tree, Json.int64?_tree hexpires, Json.int64?_tree hissued]
  rfl

theorem ofBytes?_write (hexpires : Text.Fits64 c.expiresAt) (hissued : Text.Fits64 c.issuedAt) :
    (Json.Written.ofBytes? (Utf8.encode c.write)).bind (Fields.ofWritten? Json.Written.text?)
      = some c.fields := by
  rw [write, Json.Written.ofBytes?_encode c.exact_object_members, Option.bind_some,
    ofWritten?_tree hexpires hissued]

end Gatehouse.Claims
