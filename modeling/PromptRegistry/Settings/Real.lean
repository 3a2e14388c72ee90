import PromptRegistry.Json.Binary64

/-!
# Real numbers of settings

Floating-point numbers with the infinities and the undefined one, and their texts.
-/

namespace PromptRegistry

inductive Real64 where
  | finite (x : Binary64)
  | infinite (negative : Bool)
  | undefined
deriving DecidableEq, Repr

namespace Real64

def ofScaled (negative : Bool) (n : Nat) (power : Int) : Real64 :=
  let size : Int := (Text.Decimal.digits n).length + power
  if n = 0 ∨ size < -400 then .finite (Binary64.zero negative)
  else if 400 < size then .infinite negative
  else
    let x? :=
      if 0 ≤ power then Binary64.ofRatio? negative (n * Nat.pow 10 power.toNat) 1
      else Binary64.ofRatio? negative n (Nat.pow 10 (-power).toNat)
    x?.elim (.infinite negative) .finite

def splitSign : List Char → Bool × List Char
  | '-' :: cs => (true, cs)
  | '+' :: cs => (false, cs)
  | cs => (false, cs)

def readPower? : List Char → Option Int
  | [] => some 0
  | c :: cs =>
    if c = 'e' ∨ c = 'E' then
      let (negative, ds) := splitSign cs
      if ds.isEmpty ∨ !ds.all Text.isAsciiDigit then none
      else some (if negative then -(Text.Decimal.value ds : Int) else Text.Decimal.value ds)
    else none

/-- Reads a number: digits with a point among or beside them and a power of ten if need be, or
the word for a number that is not finite, in any case. -/
def ofChars? (cs : List Char) : Option Real64 :=
  let (negative, cs) := splitSign cs
  match String.ofList (cs.map Text.lowerAscii) with
  | "inf" | "infinity" => some (.infinite negative)
  | "nan" => some .undefined
  | _ =>
    let whole := cs.takeWhile Text.isAsciiDigit
    let rest := cs.dropWhile Text.isAsciiDigit
    let (fraction, rest) := match rest with
      | '.' :: rest => (rest.takeWhile Text.isAsciiDigit, rest.dropWhile Text.isAsciiDigit)
      | rest => ([], rest)
    if whole.isEmpty && fraction.isEmpty then none
    else (readPower? rest).map fun power =>
      ofScaled negative (Text.Decimal.value (whole ++ fraction)) (power - fraction.length)

/-- The text of a number, never with a power of ten. -/
def render : Real64 → String
  | .finite x => x.renderPlain
  | .infinite negative => if negative then "-inf" else "inf"
  | .undefined => "NaN"

/-- The nearest natural number of 64 bits, a half upwards. -/
def toNat : Real64 → Nat
  | .finite x =>
    let (a, b) := x.ratio
    if x.negative then 0 else min ((2 * a + b) / (2 * b)) (UInt64.size - 1)
  | .infinite negative => if negative then 0 else UInt64.size - 1
  | .undefined => 0

end Real64

end PromptRegistry
