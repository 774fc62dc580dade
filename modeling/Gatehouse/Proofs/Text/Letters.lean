import Gatehouse.Proofs.Text.Blank
import Gatehouse.Text.Ascii

/-!
# Small letters

Making letters small changes capitals only. No capital is a blank and none becomes one, so a text can
be trimmed before its letters are made small or after it.
-/

namespace Gatehouse

theorem toLower_cases (c : Char) :
    c.toLower = c ∨ 65 ≤ c.toNat ∧ c.toNat ≤ 90 ∧ c.toLower.toNat = c.toNat + 32 := by
  unfold Char.toLower
  split
  · next hcapital =>
    have hhigh : c.val.toNat ≤ 90 := hcapital.2
    refine .inr ⟨hcapital.1, hcapital.2, ?_⟩
    change (c.val + 32).toNat = c.val.toNat + 32
    rw [UInt32.toNat_add, show (32 : UInt32).toNat = 32 from rfl]
    omega
  · exact .inl rfl

theorem toLower_toLower (c : Char) : c.toLower.toLower = c.toLower := by
  rcases toLower_cases c with hsame | ⟨hlow, hhigh, hval⟩
  · rw [hsame, hsame]
  · rcases toLower_cases c.toLower with hsame' | ⟨_, hhigh', _⟩
    · exact hsame'
    · omega

namespace Text

theorem isBlank_of_visible {c : Char} (hlow : 33 ≤ c.toNat) (hhigh : c.toNat ≤ 126) :
    isBlank c = false := by
  simp only [isBlank, Bool.or_eq_false_iff, Bool.and_eq_false_iff, decide_eq_false_iff_not,
    beq_eq_false_iff_ne]
  omega

theorem isBlank_toLower (c : Char) : isBlank c.toLower = isBlank c := by
  rcases toLower_cases c with hsame | ⟨hlow, hhigh, hval⟩
  · rw [hsame]
  · rw [isBlank_of_visible (by omega) (by omega), isBlank_of_visible (by omega) (by omega)]

theorem trimChars_map_toLower (l : List Char) :
    trimChars (l.map Char.toLower) = (trimChars l).map Char.toLower := by
  have hblank : isBlank ∘ Char.toLower = isBlank := funext isBlank_toLower
  rw [trimChars, trimChars, List.dropWhile_map, hblank, dropEnd_map, hblank]

theorem trim_lower (s : String) : trim (lower s) = lower (trim s) := by
  rw [trim, lower, lower, trim, String.toList_ofList, String.toList_ofList, trimChars_map_toLower]

theorem lower_lower (s : String) : lower (lower s) = lower s := by
  have htwice : Char.toLower ∘ Char.toLower = Char.toLower := funext toLower_toLower
  rw [lower, lower, String.toList_ofList, List.map_map, htwice]

end Text

end Gatehouse
