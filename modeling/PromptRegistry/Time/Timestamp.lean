import PromptRegistry.Text.Blank
import PromptRegistry.Text.Decimal
import PromptRegistry.Time.Calendar

/-!
# Timestamps

Instants to the nanosecond, read from and written in the form of RFC 3339. Reading is generous:
blanks may stand around the parts, a number may lack its leading zero, a year may have a sign and
more than four digits. Writing is in universal time, with the fewest groups of three fraction
digits that are exact.
-/

namespace PromptRegistry

/-- An instant: seconds since the start of 1970 and nanoseconds. Within a leap second the
nanoseconds go on from a thousand million. -/
structure Timestamp where
  seconds : Int
  nanos : Nat
deriving DecidableEq, Repr, Inhabited

namespace Timestamp

protected def compare (a b : Timestamp) : Ordering :=
  (compare a.seconds b.seconds).then (compare a.nanos b.nanos)

instance : Ord Timestamp := ⟨Timestamp.compare⟩
instance : LE Timestamp := ⟨fun a b => (compare a b).isLE = true⟩
instance (a b : Timestamp) : Decidable (a ≤ b) := inferInstanceAs (Decidable (_ = true))

def firstYear : Int := -262143

def lastYear : Int := 262142

def inRange (t : Timestamp) : Bool :=
  let year := (Time.Date.ofDays (t.seconds / 86400)).year
  firstYear ≤ year && year ≤ lastYear

inductive Zone where
  | letter
  | offset

def pair (n : Nat) : List Char := Text.Decimal.padded 2 n

/-- The digits of a year: four, or a sign and at least four. -/
def yearText (y : Int) : List Char :=
  if 0 ≤ y ∧ y ≤ 9999 then Text.Decimal.padded 4 y.toNat
  else if 0 ≤ y then '+' :: Text.Decimal.padded 4 y.toNat
  else '-' :: Text.Decimal.padded 4 (-y).toNat

def fractionText (nanos : Nat) : List Char :=
  if nanos = 0 then []
  else if nanos % 1000000 = 0 then '.' :: Text.Decimal.padded 3 (nanos / 1000000)
  else if nanos % 1000 = 0 then '.' :: Text.Decimal.padded 6 (nanos / 1000)
  else '.' :: Text.Decimal.padded 9 nanos

def chars (zone : Zone) (t : Timestamp) : List Char :=
  let date := Time.Date.ofDays (t.seconds / 86400)
  let time := (t.seconds % 86400).toNat
  let leap := 1000000000 ≤ t.nanos
  let second := if leap then time % 60 + 1 else time % 60
  let nanos := if leap then t.nanos - 1000000000 else t.nanos
  yearText date.year ++ '-' :: pair date.month ++ '-' :: pair date.day ++
    'T' :: pair (time / 3600) ++ ':' :: pair (time / 60 % 60) ++ ':' :: pair second ++
    fractionText nanos ++
    match zone with
    | .letter => ['Z']
    | .offset => ['+', '0', '0', ':', '0', '0']

def render (t : Timestamp) : String := String.ofList (t.chars .letter)

def renderOffset (t : Timestamp) : String := String.ofList (t.chars .offset)

def readNumber (width : Option Nat) (cs : List Char) : Option (Nat × List Char) :=
  let cs := Text.trimStart cs
  let ds := (match width with
    | some w => cs.take w
    | none => cs).takeWhile Text.isAsciiDigit
  if ds.isEmpty then none else some (Text.Decimal.value ds, cs.drop ds.length)

/-- A year: four digits at most, or a sign and any number of digits. -/
def readYear (cs : List Char) : Option (Int × List Char) :=
  match Text.trimStart cs with
  | c :: cs =>
    if c = '-' ∨ c = '+' then do
      -- the digits follow the sign at once
      let d ← cs.head?
      if Text.isAsciiDigit d then
        let (y, cs) ← readNumber none cs
        some (if c = '-' then -(y : Int) else y, cs)
      else none
    else do
      let (y, cs) ← readNumber (some 4) (c :: cs)
      some (y, cs)
  | [] => none

def readMark (mark : Char) (cs : List Char) : Option (List Char) :=
  match Text.trimStart cs with
  | c :: cs => if c = mark then some cs else none
  | [] => none

/-- The nanoseconds behind a point; digits after the ninth do not count. -/
def readFraction : List Char → Option (Nat × List Char)
  | '.' :: cs =>
    let ds := (cs.take 9).takeWhile Text.isAsciiDigit
    if ds.isEmpty then none
    else some (Text.Decimal.value ds * Nat.pow 10 (9 - ds.length), cs.dropWhile Text.isAsciiDigit)
  | cs => some (0, cs)

def readOffset (cs : List Char) : Option (Int × List Char) :=
  match cs with
  | 'Z' :: cs => some (0, cs)
  | 'z' :: cs => some (0, cs)
  | sign :: h₁ :: h₂ :: cs =>
    if (sign = '+' ∨ sign = '-' ∨ sign = '\u2212') ∧
        Text.isAsciiDigit h₁ ∧ Text.isAsciiDigit h₂ then
      match cs.dropWhile fun c => c = ':' || Text.isBlank c with
      | m₁ :: m₂ :: cs =>
        if '0' ≤ m₁ ∧ m₁ ≤ '5' ∧ Text.isAsciiDigit m₂ then
          let n : Int := Text.Decimal.value [h₁, h₂] * 3600 + Text.Decimal.value [m₁, m₂] * 60
          some (if sign = '+' then n else -n, cs)
        else none
      | _ => none
    else none
  | _ => none

def readZone (cs : List Char) : Option (Int × List Char) :=
  if (cs.take 3).map Text.lowerAscii = ['u', 't', 'c'] then some (0, cs.drop 3)
  else readOffset cs

def ofChars? (cs : List Char) : Option Timestamp := do
  let (year, cs) ← readYear cs
  let cs ← readMark '-' cs
  let (month, cs) ← readNumber (some 2) cs
  let cs ← readMark '-' cs
  let (day, cs) ← readNumber (some 2) cs
  let cs ← match cs with
    | c :: cs => if c = 'T' ∨ c = 't' ∨ c = ' ' then some cs else none
    | [] => none
  let (hour, cs) ← readNumber (some 2) cs
  let cs ← readMark ':' cs
  let (minute, cs) ← readNumber (some 2) cs
  let cs ← readMark ':' cs
  let (second, cs) ← readNumber (some 2) cs
  let (nanos, cs) ← readFraction cs
  let (offset, cs) ← readZone (Text.trimStart cs)
  let date : Time.Date := ⟨year, month, day⟩
  let local' := date.toDays * 86400 + hour * 3600 + minute * 60 + min second 59
  let t : Timestamp :=
    ⟨local' - offset, if second = 60 then nanos + 1000000000 else nanos⟩
  if (Text.trimStart cs).isEmpty && firstYear ≤ year && year ≤ lastYear && date.isValid &&
      hour < 24 && minute < 60 && second ≤ 60 && -86400 < offset && offset < 86400 && t.inRange
  then some t
  else none

def ofString? (s : String) : Option Timestamp := ofChars? s.toList

end Timestamp

end PromptRegistry
