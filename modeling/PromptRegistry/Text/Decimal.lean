import PromptRegistry.Text.Ascii

/-!
# Decimal numerals

Natural numbers written without leading zeros, and read from any run of decimal digits.
-/

namespace PromptRegistry.Text.Decimal

def digitChar (d : Nat) : Char := Char.ofNat (48 + d)

def digitValue (c : Char) : Nat := c.toNat - 48

def digits (n : Nat) : List Char :=
  if n < 10 then [digitChar n] else digits (n / 10) ++ [digitChar (n % 10)]
termination_by n
decreasing_by omega

def value (ds : List Char) : Nat := ds.foldl (fun n d => 10 * n + digitValue d) 0

def render (n : Nat) : String := String.ofList (digits n)

def renderInt : Int → String
  | .ofNat n => render n
  | .negSucc n => String.ofList ('-' :: digits (n + 1))

def padded (width n : Nat) : List Char :=
  let ds := digits n
  List.replicate (width - ds.length) '0' ++ ds

/-- Reads a non-empty run of digits whose number is below `bound`. -/
def readDigits? (bound : Nat) (ds : List Char) : Option Nat :=
  if ds.isEmpty || !ds.all isAsciiDigit then none
  else if value ds < bound then some (value ds) else none

/-- Reads a number below `bound`; one plus sign may stand in front. -/
def readNat? (bound : Nat) : List Char → Option Nat
  | '+' :: ds => readDigits? bound ds
  | ds => readDigits? bound ds

theorem digitValue_digitChar {d : Nat} (h : d < 10) : digitValue (digitChar d) = d := by
  have : ∀ d, d < 10 → digitValue (digitChar d) = d := by decide
  exact this d h

theorem isAsciiDigit_digitChar {d : Nat} (h : d < 10) : isAsciiDigit (digitChar d) = true := by
  have : ∀ d, d < 10 → isAsciiDigit (digitChar d) = true := by decide
  exact this d h

theorem digits_ne_nil (n : Nat) : digits n ≠ [] := by
  rw [digits]; split <;> simp

theorem all_digits (n : Nat) : ∀ c ∈ digits n, isAsciiDigit c = true := by
  rw [digits]
  split
  · next h => simpa using isAsciiDigit_digitChar h
  · intro c hc
    rcases List.mem_append.1 hc with hc | hc
    · exact all_digits (n / 10) c hc
    · rw [List.mem_singleton.1 hc]
      exact isAsciiDigit_digitChar (by omega)
termination_by n
decreasing_by omega

theorem value_append_singleton (ds : List Char) (d : Char) :
    value (ds ++ [d]) = 10 * value ds + digitValue d := by
  simp [value]

@[simp] theorem value_digits (n : Nat) : value (digits n) = n := by
  rw [digits]
  split
  · next h => simp [value, digitValue_digitChar h]
  · rw [value_append_singleton, value_digits (n / 10), digitValue_digitChar (by omega)]
    omega
termination_by n
decreasing_by omega

theorem readDigits?_digits {bound n : Nat} (h : n < bound) :
    readDigits? bound (digits n) = some n := by
  simp [readDigits?, digits_ne_nil, h]
  exact all_digits n

end PromptRegistry.Text.Decimal
