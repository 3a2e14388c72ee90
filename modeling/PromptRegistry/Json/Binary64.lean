import PromptRegistry.Text.Decimal

/-!
# Binary floating point of 64 bits

Finite numbers `± mantissa · 2 ^ exponent` in exact arithmetic: rounding a ratio to the nearest
number, and the fewest decimal digits that round back to a number.
-/

namespace PromptRegistry

/-- A finite number. The mantissa has 53 bits, or fewer at the least exponent. -/
structure Binary64 where
  negative : Bool
  mantissa : Nat
  exponent : Int
deriving DecidableEq, Repr

namespace Binary64

def leastExponent : Int := -1074

def greatestExponent : Int := 971

def zero (negative : Bool) : Binary64 := ⟨negative, 0, leastExponent⟩

/-- The quotient rounded to the nearest integer, a half to the even one. -/
def roundDiv (num den : Nat) : Nat :=
  let q := num / den
  let r := num % den
  if 2 * r < den then q else if den < 2 * r then q + 1 else q + q % 2

/-- The ratio `num / den` scaled by `2 ^ -exponent`, as numerator and denominator. -/
def scaled (num den : Nat) (exponent : Int) : Nat × Nat :=
  if 0 ≤ exponent then (num, den * Nat.pow 2 exponent.toNat)
  else (num * Nat.pow 2 (-exponent).toNat, den)

/-- The number nearest to `num / den`, or nothing where that is beyond the greatest one. -/
def ofRatio? (negative : Bool) (num den : Nat) : Option Binary64 :=
  if num = 0 then some (zero negative)
  else
    let guess : Int := (Nat.log2 num : Int) - (Nat.log2 den : Int) - 52
    let fits (e : Int) : Bool :=
      let (n, d) := scaled num den e
      n / d < Nat.pow 2 53
    let least := if fits (guess - 1) then guess - 1 else if fits guess then guess else guess + 1
    let exponent := max least leastExponent
    let (n, d) := scaled num den exponent
    let mantissa := roundDiv n d
    let (mantissa, exponent) :=
      if mantissa = Nat.pow 2 53 then (Nat.pow 2 52, exponent + 1) else (mantissa, exponent)
    if mantissa = 0 then some (zero negative)
    else if greatestExponent < exponent then none
    else some ⟨negative, mantissa, exponent⟩

def ratio (x : Binary64) : Nat × Nat :=
  if 0 ≤ x.exponent then (x.mantissa * Nat.pow 2 x.exponent.toNat, 1)
  else (x.mantissa, Nat.pow 2 (-x.exponent).toNat)

def ofNat (n : Nat) : Binary64 := (ofRatio? false n 1).getD (zero false)

def powerOfTen (n : Nat) : Binary64 := ofNat (Nat.pow 10 n)

def mul? (x y : Binary64) : Option Binary64 :=
  let (a, b) := x.ratio
  let (c, d) := y.ratio
  ofRatio? (x.negative != y.negative) (a * c) (b * d)

def div (x y : Binary64) : Binary64 :=
  let (a, b) := x.ratio
  let (c, d) := y.ratio
  let negative := x.negative != y.negative
  (ofRatio? negative (a * d) (b * c)).getD (zero negative)

structure Digits where
  digits : Nat
  power : Int

def scaledTen (num den : Nat) (power : Int) : Nat × Nat :=
  if 0 ≤ power then (num, den * Nat.pow 10 power.toNat)
  else (num * Nat.pow 10 (-power).toNat, den)

/-- The digits `n` at `power` round back to a number that is not zero. The numbers that do lie
between the half-way points to its neighbours, which count where the mantissa is even. -/
def roundsBack (x : Binary64) (n : Nat) (power : Int) : Bool :=
  let (a, b) := x.ratio
  -- a quarter step below, in units of a quarter of the last place
  let below : Nat := if x.mantissa = Nat.pow 2 52 ∧ leastExponent < x.exponent then 1 else 2
  let lowNum := a * (4 * x.mantissa - below)
  let highNum := a * (4 * x.mantissa + 2)
  let den := b * (4 * x.mantissa)
  let (num', one) :=
    if 0 ≤ power then (n * Nat.pow 10 power.toNat, 1) else (n, Nat.pow 10 (-power).toNat)
  if x.mantissa % 2 = 0 then lowNum * one ≤ num' * den && num' * den ≤ highNum * one
  else lowNum * one < num' * den && num' * den < highNum * one

/-- The nearer of the two neighbours on the grid of `10 ^ power`, if one rounds back. -/
def onGrid? (x : Binary64) (power : Int) : Option Digits :=
  let (a, b) := x.ratio
  let (n, d) := scaledTen a b power
  let low := n / d
  let nearest := roundDiv n d
  let other := if nearest = low then low + 1 else low
  if roundsBack x nearest power then some ⟨nearest, power⟩
  else if roundsBack x other power then some ⟨other, power⟩
  else none

/-- The exponent `k` with `10 ^ k ≤ num / den < 10 ^ (k + 1)`, searched from a start that is not
above it. -/
def decimalExponent (num den : Nat) : Nat → Int → Int
  | 0, k => k
  | fuel + 1, k =>
    let (n, d) := scaledTen num den (k + 1)
    if d ≤ n then decimalExponent num den fuel (k + 1) else k

/-- The first of `count` grids, from the coarsest, that has digits which round back. -/
def firstGrid (x : Binary64) (lead : Int) : Nat → Nat → Digits
  | 0, _ => ⟨0, 0⟩
  | fuel + 1, width =>
    match onGrid? x (lead - width) with
    | some d => d
    | none => firstGrid x lead fuel (width + 1)

def Digits.stripped (d : Digits) : Nat → Digits
  | 0 => d
  | fuel + 1 =>
    if d.digits % 10 = 0 ∧ d.digits ≠ 0 then Digits.stripped ⟨d.digits / 10, d.power + 1⟩ fuel
    else d

/-- The fewest digits that round back to a number, and of those the nearest. -/
def shortest (x : Binary64) : Digits :=
  if x.mantissa = 0 then ⟨0, 0⟩
  else
    let (a, b) := x.ratio
    let bits : Int := (Nat.log2 a : Int) - (Nat.log2 b : Int) - 1
    -- a power of two lies above this power of ten
    let start : Int := if 0 ≤ bits then bits * 301 / 1000 - 1 else bits * 302 / 1000 - 2
    let lead := decimalExponent a b 40 start
    (firstGrid x lead 18 0).stripped 20

/-- The text with a point and at least one digit after it, or with a power of ten where the
number has more than 16 digits before the point or five zeros after it. -/
def render (x : Binary64) : String :=
  let sign := if x.negative then ['-'] else []
  if x.mantissa = 0 then String.ofList (sign ++ ['0', '.', '0'])
  else
    let s := x.shortest
    let ds := Text.Decimal.digits s.digits
    let point : Int := ds.length + s.power
    let zeros (n : Int) : List Char := List.replicate n.toNat '0'
    let body : List Char :=
      if 0 ≤ s.power ∧ point ≤ 16 then ds ++ zeros s.power ++ ['.', '0']
      else if 0 < point ∧ point ≤ 16 then ds.take point.toNat ++ '.' :: ds.drop point.toNat
      else if -5 < point ∧ point ≤ 0 then '0' :: '.' :: zeros (-point) ++ ds
      else
        let power := (Text.Decimal.renderInt (point - 1)).toList
        match ds with
        | [d] => d :: 'e' :: power
        | d :: more => d :: '.' :: more ++ 'e' :: power
        | [] => []
    String.ofList (sign ++ body)

def renderPlain (x : Binary64) : String :=
  let sign := if x.negative then ['-'] else []
  if x.mantissa = 0 then String.ofList (sign ++ ['0'])
  else
    let s := x.shortest
    let ds := Text.Decimal.digits s.digits
    let point : Int := ds.length + s.power
    let zeros (n : Int) : List Char := List.replicate n.toNat '0'
    let body : List Char :=
      if 0 ≤ s.power then ds ++ zeros s.power
      else if 0 < point then ds.take point.toNat ++ '.' :: ds.drop point.toNat
      else '0' :: '.' :: zeros (-point) ++ ds
    String.ofList (sign ++ body)

end Binary64

end PromptRegistry
