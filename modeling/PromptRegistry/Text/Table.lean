/-!
# Tables over code points

A property of characters is a list of closed ranges in ascending order, a map on characters a
list of runs in ascending order. A look-up stops at the first entry that lies behind the code
point.
-/

namespace PromptRegistry.Text

def inRanges (n : Nat) : List (Nat × Nat) → Bool
  | [] => false
  | (first, last) :: ranges => if n < first then false else n ≤ last || inRanges n ranges

/-- The code points `first`, `first + step`, … up to `last`, sent to `target`,
`target + step`, … -/
structure Run where
  first : Nat
  last : Nat
  step : Nat
  target : Nat

/-- The image of a code point under ascending runs; a code point of no run is kept. -/
def mapRuns (n : Nat) : List Run → Nat
  | [] => n
  | r :: runs =>
    if n < r.first then n
    else if n ≤ r.last ∧ (n - r.first) % r.step = 0 then r.target + (n - r.first)
    else mapRuns n runs

end PromptRegistry.Text
