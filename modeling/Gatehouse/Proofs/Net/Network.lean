import Gatehouse.Net.Network
import Gatehouse.Proofs.Text.Letters

/-!
# Networks are written without blanks

Each piece of an address or a network takes characters that are no blanks off the front of a text,
and a network is read only if nothing is left. So a text that stands for a network has nothing to
trim.
-/

namespace Gatehouse

namespace Address

/-- `rest` is what is left of `l` behind characters that are no blanks. -/
def Spans (l rest : List Char) : Prop :=
  ∃ taken, l = taken ++ rest ∧ ∀ c ∈ taken, Text.isBlank c = false

theorem Spans.refl (l : List Char) : Spans l l :=
  ⟨[], rfl, by simp⟩

theorem Spans.trans {l middle rest : List Char} (h : Spans l middle) (h' : Spans middle rest) :
    Spans l rest := by
  obtain ⟨first, rfl, hfirst⟩ := h
  obtain ⟨second, rfl, hsecond⟩ := h'
  exact ⟨first ++ second, (List.append_assoc _ _ _).symm,
    List.forall_mem_append.mpr ⟨hfirst, hsecond⟩⟩

theorem Spans.not_blank {l : List Char} (h : Spans l []) : ∀ c ∈ l, Text.isBlank c = false := by
  obtain ⟨taken, rfl, htaken⟩ := h
  rwa [List.append_nil]

/-! ### Numbers and marks -/

theorem isBlank_of_between {first last c : Char} (h : first ≤ c ∧ c ≤ last)
    (hfirst : 33 ≤ first.toNat) (hlast : last.toNat ≤ 126) : Text.isBlank c = false := by
  have hlow : first.toNat ≤ c.toNat := h.1
  have hhigh : c.toNat ≤ last.toNat := h.2
  exact Text.isBlank_of_visible (by omega) (by omega)

theorem isBlank_of_digit? (c : Char) (h : (Text.digit? c).isSome = true) :
    Text.isBlank c = false := by
  rw [Text.digit?] at h
  split at h
  · next hdigit => exact isBlank_of_between hdigit (by decide) (by decide)
  · cases h

theorem isBlank_of_hexDigit? (c : Char) (h : (Text.hexDigit? c).isSome = true) :
    Text.isBlank c = false := by
  rw [Text.hexDigit?] at h
  split at h
  · next hdigit => exact isBlank_of_between hdigit (by decide) (by decide)
  · split at h
    · next hsmall => exact isBlank_of_between hsmall (by decide) (by decide)
    · split at h
      · next hcapital => exact isBlank_of_between hcapital (by decide) (by decide)
      · cases h

variable {strict : Bool} {l rest : List Char} {n : Nat}

theorem spans_number? {base most bound : Nat} {digit : Char → Option Nat}
    (hdigit : ∀ c, (digit c).isSome = true → Text.isBlank c = false)
    (h : number? base digit most bound strict l = some (n, rest)) : Spans l rest := by
  have hsplit := List.prefix_iff_eq_append.mp
    (List.takeWhile_prefix (l := l) fun c => (digit c).isSome)
  simp only [number?] at h
  split at h
  · cases h
  · split at h
    · cases h
    · obtain ⟨-, rfl⟩ := Prod.mk.inj (Option.some.inj h)
      refine ⟨_, hsplit.symm, fun c hc => hdigit c ?_⟩
      exact List.mem_takeWhile_imp (p := fun c => (digit c).isSome) hc

theorem spans_expect? {c : Char} (hc : Text.isBlank c = false) (h : expect? c l = some rest) :
    Spans l rest := by
  cases l with
  | nil => cases h
  | cons d l =>
    rw [expect?] at h
    split at h
    · next heq =>
      subst heq
      obtain rfl := Option.some.inj h
      exact ⟨[c], rfl, by simpa using hc⟩
    · cases h

theorem spans_quad? (h : quad? strict l = some (n, rest)) : Spans l rest := by
  simp only [quad?, bind, Option.bind_eq_some_iff, pure, Option.some.injEq, Prod.mk.injEq,
    Prod.exists] at h
  obtain ⟨a, _, ha, _, hfirst, b, _, hb, _, hsecond, c, _, hc, _, hthird, d, _, hd, -, rfl⟩ := h
  have hdot {l rest : List Char} (h : expect? '.' l = some rest) : Spans l rest :=
    spans_expect? rfl h
  have hoctet {l rest : List Char} {n : Nat}
      (h : number? 10 Text.digit? 3 256 strict l = some (n, rest)) : Spans l rest :=
    spans_number? isBlank_of_digit? h
  exact (hoctet ha).trans <| (hdot hfirst).trans <| (hoctet hb).trans <| (hdot hsecond).trans <|
    (hoctet hc).trans <| (hdot hthird).trans (hoctet hd)

/-! ### Groups -/

theorem spans_groups (strict : Bool) (limit : Nat) (isFirst : Bool) (l : List Char) :
    Spans l (groups strict limit isFirst l).2.2 := by
  induction limit generalizing isFirst l with
  | zero => exact .refl l
  | succ limit ih =>
    rw [groups]
    split
    · exact .refl l
    · next start hstart =>
      have hbegun : Spans l start := by
        cases isFirst with
        | true =>
          obtain rfl : l = start := Option.some.inj hstart
          exact .refl l
        | false => exact spans_expect? rfl hstart
      split
      · next n rest hquad =>
        split at hquad
        · cases hquad
        · exact hbegun.trans (spans_quad? hquad)
      · split
        · exact .refl l
        · next g rest hnumber =>
          exact hbegun.trans <| (spans_number? isBlank_of_hexDigit? hnumber).trans (ih false rest)

theorem spans_groups? (h : groups? strict l = some (n, rest)) : Spans l rest := by
  have hhead := spans_groups strict 8 true l
  simp only [groups?] at h
  split at h
  · obtain ⟨-, rfl⟩ := Prod.mk.inj (Option.some.inj h)
    exact hhead
  · split at h
    · cases h
    · split at h
      · next behind hbehind =>
        obtain ⟨-, rfl⟩ := Prod.mk.inj (Option.some.inj h)
        rw [hbehind] at hhead
        have hcolons : Spans (':' :: ':' :: behind) behind :=
          ⟨[':', ':'], rfl, Text.not_blank_of_all (by decide)⟩
        exact hhead.trans (hcolons.trans (spans_groups strict _ true behind))
      · cases h

theorem not_blank_of_ofChars? {a : Address} (h : ofChars? l = some a) :
    ∀ c ∈ l, Text.isBlank c = false := by
  rw [ofChars?] at h
  split at h
  · next hquad => exact (spans_quad? hquad).not_blank
  · split at h
    · next hgroups => exact (spans_groups? hgroups).not_blank
    · cases h

end Address

namespace Network

open Address (Spans)

variable {l : List Char} {n : Network}

theorem spans_bits {most bound : Nat} {l behind rest : List Char} {bits : Nat}
    (hslash : Address.expect? '/' l = some behind)
    (hbits : Address.number? 10 Text.digit? most bound false behind = some (bits, rest)) :
    Spans l rest :=
  (Address.spans_expect? rfl hslash).trans
    (Address.spans_number? Address.isBlank_of_digit? hbits)

theorem not_blank_of_v4? (h : v4? l = some n) : ∀ c ∈ l, Text.isBlank c = false := by
  simp only [v4?, bind, Option.bind_eq_some_iff, Prod.exists] at h
  obtain ⟨_, _, haddress, _, hslash, _, _, hbits, hend⟩ := h
  split at hend
  · next hrest =>
    subst hrest
    exact ((Address.spans_quad? haddress).trans (spans_bits hslash hbits)).not_blank
  · cases hend

theorem not_blank_of_v6? (h : v6? l = some n) : ∀ c ∈ l, Text.isBlank c = false := by
  simp only [v6?, bind, Option.bind_eq_some_iff, Prod.exists] at h
  obtain ⟨_, _, haddress, _, hslash, _, _, hbits, hend⟩ := h
  split at hend
  · next hrest =>
    subst hrest
    exact ((Address.spans_groups? haddress).trans (spans_bits hslash hbits)).not_blank
  · cases hend

theorem nonBlank?_of_ofText? {s : String} (h : ofText? s = some n) :
    Text.nonBlank? s = some s := by
  have hne : s ≠ "" := by
    rintro rfl
    have hnone : ofText? "" = none := by decide
    rw [hnone] at h
    cases h
  refine Text.nonBlank?_of_forall hne ?_
  rw [ofText?] at h
  split at h
  · next haddress => exact Address.not_blank_of_ofChars? haddress
  · rcases Option.or_eq_some_iff.mp h with hnetwork | ⟨-, hnetwork⟩
    · exact not_blank_of_v4? hnetwork
    · exact not_blank_of_v6? hnetwork

end Network

end Gatehouse
