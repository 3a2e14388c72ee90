import PromptRegistry.Text.Ascii
import PromptRegistry.Text.Decimal

/-!
# Internet addresses

The numeric addresses that a service can listen at: four numbers between points, or up to eight
groups of hexadecimal digits between colons, with one run of zeros left out behind two colons and
the last two groups written as four numbers if need be.
-/

namespace PromptRegistry.Settings.Address

/-- A number below 256 without needless zeros. -/
def isOctet (cs : List Char) : Bool :=
  !cs.isEmpty && cs.length ≤ 3 && cs.all Text.isAsciiDigit &&
    (cs.length = 1 || cs.head? ≠ some '0') && Text.Decimal.value cs ≤ 255

def isFour (s : String) : Bool :=
  let parts := s.splitOn "."
  parts.length = 4 && parts.all fun part => isOctet part.toList

def isGroup (s : String) : Bool :=
  !s.isEmpty && s.length ≤ 4 && s.toList.all fun c =>
    Text.isAsciiDigit c || ('a' ≤ Text.lowerAscii c && Text.lowerAscii c ≤ 'f')

/-- The number of groups between single colons; four numbers at the end count as two where they
are allowed. -/
def groups? (fourAllowed : Bool) (s : String) : Option Nat :=
  if s.isEmpty then some 0
  else
    let parts := s.splitOn ":"
    let front := parts.dropLast
    match parts.getLast? with
    | some last =>
      if !front.all isGroup then none
      else if isGroup last then some parts.length
      else if fourAllowed && isFour last then some (parts.length + 1)
      else none
    | none => none

def isGroups (s : String) : Bool :=
  match s.splitOn "::" with
  | [all] => groups? true all = some 8
  | [head, tail] =>
    match groups? false head, groups? true tail with
    | some m, some n => m + n ≤ 7
    | _, _ => false
  | _ => false

def isAddress (s : String) : Bool := isFour s || isGroups s

end PromptRegistry.Settings.Address
