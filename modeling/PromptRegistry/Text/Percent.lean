import PromptRegistry.Text.Utf8

/-!
# Percent escapes

Bytes spelled as a percent sign and two hexadecimal digits, and the pairs of a query string.
-/

namespace PromptRegistry.Text.Percent

def hexValue? (b : UInt8) : Option UInt8 :=
  if 0x30 ≤ b ∧ b ≤ 0x39 then some (b - 0x30)
  else if 0x41 ≤ b ∧ b ≤ 0x46 then some (b - 0x37)
  else if 0x61 ≤ b ∧ b ≤ 0x66 then some (b - 0x57)
  else none

/-- Resolves the escapes of a sequence of bytes; a percent sign that starts none is kept. -/
def decode : List UInt8 → List UInt8
  | 0x25 :: a :: b :: rest =>
    match hexValue? a, hexValue? b with
    | some x, some y => (x * 16 + y) :: decode rest
    | _, _ => 0x25 :: decode (a :: b :: rest)
  | b :: rest => b :: decode rest
  | [] => []

def decodeText? (s : String) : Option String := Utf8.decode? (decode (Utf8.encode s))

/-- A name or value of a query string: a plus sign stands for a space. -/
def decodeField (s : List Char) : String :=
  let spaced := String.ofList (s.map fun c => if c = '+' then ' ' else c)
  Utf8.decodeLossy (decode (Utf8.encode spaced))

def splitAt (separator : Char) : List Char → List (List Char)
  | [] => [[]]
  | c :: cs =>
    if c = separator then [] :: splitAt separator cs
    else
      match splitAt separator cs with
      | [] => [[c]]
      | piece :: pieces => (c :: piece) :: pieces

def splitFirst (separator : Char) (cs : List Char) : List Char × List Char :=
  (cs.takeWhile (· ≠ separator), (cs.dropWhile (· ≠ separator)).drop 1)

/-- The pairs of a query string, in order. An empty piece between two ampersands is no pair. -/
def queryPairs (query : String) : List (String × String) :=
  ((splitAt '&' query.toList).filter (!·.isEmpty)).map fun piece =>
    let (name, value) := splitFirst '=' piece
    (decodeField name, decodeField value)

end PromptRegistry.Text.Percent
