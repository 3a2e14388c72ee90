import PromptRegistry.Text.Blank
import PromptRegistry.Text.Decimal

/-!
# Numerals in texts

The numeral of a number reads back as the number. A text that reads as a number holds nothing but
digits and a plus sign.
-/

namespace PromptRegistry.Text

theorem isBlank_of_isAsciiDigit {c : Char} (h : isAsciiDigit c = true) : isBlank c = false := by
  have hbounds : 48 ≤ c.toNat ∧ c.toNat ≤ 57 := by
    simpa [isAsciiDigit, Char.le_def, UInt32.le_iff_toNat_le] using h
  simp only [isBlank, Bool.or_eq_false_iff, Bool.and_eq_false_iff, decide_eq_false_iff_not,
    beq_eq_false_iff_ne]
  omega

namespace Decimal

theorem all_zeros (n : Nat) : ∀ d ∈ List.replicate n '0', isAsciiDigit d = true := by
  intro d hd
  rw [List.eq_of_mem_replicate hd]
  decide

theorem digits_eq_cons {n : Nat} (h : n ≠ 0) : ∃ d ds, digits n = d :: ds ∧ d ≠ '0' := by
  by_cases hn : n < 10
  · have hdigit : ∀ d, d < 10 → d ≠ 0 → digitChar d ≠ '0' := by decide
    rw [digits, if_pos hn]
    exact ⟨_, _, rfl, hdigit n hn h⟩
  · obtain ⟨d, ds, hds, hd⟩ := digits_eq_cons (n := n / 10) (by omega)
    rw [digits, if_neg hn, hds]
    exact ⟨d, _, rfl, hd⟩
termination_by n
decreasing_by omega

theorem readNat?_digits {bound n : Nat} (h : n < bound) : readNat? bound (digits n) = some n := by
  unfold readNat?
  split
  · next ds hds =>
    have hplus := all_digits n '+' (by rw [hds]; exact List.mem_cons_self ..)
    exact absurd hplus (by decide)
  · exact readDigits?_digits h

theorem readDigits?_eq_some {ds : List Char} (h : readDigits? bound ds = some n) :
    (∀ d ∈ ds, isAsciiDigit d = true) ∧ n < bound := by
  unfold readDigits? at h
  split at h
  · cases h
  · next hds =>
    split at h
    · next hn =>
      cases h
      simp only [Bool.not_eq_true, Bool.or_eq_false_iff, Bool.not_eq_false', List.all_eq_true]
        at hds
      exact ⟨hds.2, hn⟩
    · cases h

theorem readNat?_eq_some {cs : List Char} (h : readNat? bound cs = some n) :
    (∀ c ∈ cs, c = '+' ∨ isAsciiDigit c = true) ∧ n < bound := by
  unfold readNat? at h
  split at h
  · next ds =>
    obtain ⟨hds, hn⟩ := readDigits?_eq_some h
    simp only [List.forall_mem_cons, true_or, true_and]
    exact ⟨fun c hc => .inr (hds c hc), hn⟩
  · obtain ⟨hcs, hn⟩ := readDigits?_eq_some h
    exact ⟨fun c hc => .inr (hcs c hc), hn⟩

end Decimal

end PromptRegistry.Text
