import PromptRegistry.Time.Timestamp

/-!
# The order of timestamps

Timestamps are in order of their seconds, and within a second in order of their nanoseconds
(`Timestamp.compare_eq_lt`).
-/

namespace PromptRegistry

open Std (TransCmp TransOrd)

instance : TransOrd Timestamp :=
  inferInstanceAs (TransCmp (compareLex (compareOn Timestamp.seconds) (compareOn Timestamp.nanos)))

namespace Timestamp

variable {s t u : Timestamp}

instance : LT Timestamp :=
  ⟨fun s t => s.seconds < t.seconds ∨ s.seconds = t.seconds ∧ s.nanos < t.nanos⟩

theorem compare_eq_lt : compare s t = .lt ↔ s < t := by
  show (compare s.seconds t.seconds).then (compare s.nanos t.nanos) = .lt ↔ _
  rw [Ordering.then_eq_lt, Int.compare_eq_lt, Nat.compare_eq_lt, Int.compare_eq_eq]
  rfl

theorem compare_eq_eq : compare s t = .eq ↔ s = t := by
  obtain ⟨seconds, nanos⟩ := s
  obtain ⟨seconds', nanos'⟩ := t
  show (compare seconds seconds').then (compare nanos nanos') = .eq ↔ _
  simp [Ordering.then_eq_eq]

protected theorem le_refl (t : Timestamp) : t ≤ t := Std.ReflCmp.isLE_rfl

protected theorem le_trans (h : s ≤ t) (h' : t ≤ u) : s ≤ u := TransCmp.isLE_trans h h'

end Timestamp

end PromptRegistry
