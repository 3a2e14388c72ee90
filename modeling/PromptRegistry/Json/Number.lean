import PromptRegistry.Json.Binary64

/-!
# JSON numbers

An integer of 64 bits, signed or not, is kept exactly; any other number is the floating-point
number that its numeral denotes.
-/

namespace PromptRegistry.Json

inductive Number where
  | integer (n : Int)
  | real (x : Binary64)
deriving DecidableEq, Repr

namespace Number

def ofNat (n : Nat) : Number := .integer n

def nat? (bound : Nat) : Number → Option Nat
  | .integer (.ofNat n) => if n < bound then some n else none
  | _ => none

def render : Number → String
  | .integer n => Text.Decimal.renderInt n
  | .real x => x.render

def greatestNat : Nat := 18446744073709551615

/-- The parts of a numeral: `whole`, the digits after a point, and a power of ten. -/
structure Numeral where
  negative : Bool
  whole : List Char
  fraction : List Char
  power : Option Int
deriving Repr

def Numeral.ofChars (cs : List Char) : Numeral :=
  let negative := cs.head? = some '-'
  let cs := if negative then cs.drop 1 else cs
  let whole := cs.takeWhile Text.isAsciiDigit
  let cs := cs.dropWhile Text.isAsciiDigit
  let pointed := cs.head? = some '.'
  let fraction := if pointed then (cs.drop 1).takeWhile Text.isAsciiDigit else []
  let cs := if pointed then (cs.drop 1).dropWhile Text.isAsciiDigit else cs
  let power := match cs with
    | _ :: '-' :: ds => some (-(Text.Decimal.value ds : Int))
    | _ :: '+' :: ds => some (Text.Decimal.value ds : Int)
    | _ :: ds => some (Text.Decimal.value ds : Int)
    | [] => none
  { negative, whole, fraction, power }

/-- The leading digits whose number stays within 64 bits, after `n`, and the digits left over. -/
def leading (n : Nat) : List Char → Nat × List Char
  | [] => (n, [])
  | d :: ds =>
    let next := 10 * n + Text.Decimal.digitValue d
    if greatestNat < next then (n, d :: ds) else leading next ds

/-- The number nearest to `n` times a power of ten, found by one multiplication or division;
powers below the least one are reached in two. -/
def scaledByTen? (negative : Bool) (n : Nat) (power : Int) : Option Binary64 :=
  let x : Binary64 := { Binary64.ofNat n with negative }
  if n = 0 then some (Binary64.zero negative)
  else if 308 < power then none
  else if 0 ≤ power then x.mul? (Binary64.powerOfTen power.toNat)
  else if -308 ≤ power then some (x.div (Binary64.powerOfTen (-power).toNat))
  else if -616 ≤ power then
    some ((x.div (Binary64.powerOfTen 308)).div (Binary64.powerOfTen (-power - 308).toNat))
  else some (Binary64.zero negative)

/-- The number of a numeral, or nothing where it is out of range. Digits beyond 64 bits only
shift the point. -/
def Numeral.number? (s : Numeral) : Option Number :=
  let (whole, dropped) := leading 0 s.whole
  if s.fraction.isEmpty && s.power.isNone && dropped.isEmpty then
    if !s.negative then some (.integer whole)
    else if whole = 0 || 9223372036854775808 < whole then
      some (.real { Binary64.ofNat whole with negative := true })
    else some (.integer (-whole))
  else
    let (significand, unread) := leading whole s.fraction
    let shift : Int := dropped.length - (s.fraction.length - unread.length : Nat)
    let power := s.power.getD 0
    if 2147483648 ≤ power then
      if significand = 0 then some (.real (Binary64.zero s.negative)) else none
    else if power ≤ -2147483648 then some (.real (Binary64.zero s.negative))
    else (scaledByTen? s.negative significand (shift + power)).map .real

def ofChars? (cs : List Char) : Option Number := (Numeral.ofChars cs).number?

end Number

end PromptRegistry.Json
