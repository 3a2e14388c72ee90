/-!
# Bytes as characters

A sequence of bytes is read one byte at a time. Bytes that spell no character are kept in the
result as `none`, one for each stretch that no longer character could have begun with.
-/

namespace PromptRegistry.Text.Utf8

inductive Progress where
  | between
  /-- `owed` more bytes, the next of them from `low` to `high`; `point` is the number so far. -/
  | inside (owed low high point : Nat)

structure Decoding where
  read : List (Option Char)
  progress : Progress

/-- Takes a byte that starts a character or is a character of its own. -/
def begin (read : List (Option Char)) (b : Nat) : Decoding :=
  if b < 0x80 then ⟨some (Char.ofNat b) :: read, .between⟩
  else if 0xC2 ≤ b ∧ b ≤ 0xDF then ⟨read, .inside 1 0x80 0xBF (b - 0xC0)⟩
  else if b = 0xE0 then ⟨read, .inside 2 0xA0 0xBF 0⟩
  else if b = 0xED then ⟨read, .inside 2 0x80 0x9F 0xD⟩
  else if 0xE1 ≤ b ∧ b ≤ 0xEF then ⟨read, .inside 2 0x80 0xBF (b - 0xE0)⟩
  else if b = 0xF0 then ⟨read, .inside 3 0x90 0xBF 0⟩
  else if b = 0xF4 then ⟨read, .inside 3 0x80 0x8F 4⟩
  else if 0xF1 ≤ b ∧ b ≤ 0xF3 then ⟨read, .inside 3 0x80 0xBF (b - 0xF0)⟩
  else ⟨none :: read, .between⟩

def Decoding.step (d : Decoding) (byte : UInt8) : Decoding :=
  let b := byte.toNat
  match d.progress with
  | .between => begin d.read b
  | .inside owed low high point =>
    if low ≤ b ∧ b ≤ high then
      let point := point * 64 + (b - 0x80)
      if owed ≤ 1 then ⟨some (Char.ofNat point) :: d.read, .between⟩
      else ⟨d.read, .inside (owed - 1) 0x80 0xBF point⟩
    else begin (none :: d.read) b

def Decoding.finish (d : Decoding) : List (Option Char) :=
  match d.progress with
  | .between => d.read.reverse
  | .inside .. => (none :: d.read).reverse

def decode (bytes : List UInt8) : List (Option Char) :=
  (bytes.foldl Decoding.step ⟨[], .between⟩).finish

def decode? (bytes : List UInt8) : Option String :=
  (decode bytes).mapM id |>.map String.ofList

/-- The text of a sequence of bytes, with a replacement character for what spells none. -/
def decodeLossy (bytes : List UInt8) : String :=
  String.ofList ((decode bytes).map (·.getD '\ufffd'))

def encode (s : String) : List UInt8 := s.toUTF8.toList

abbrev size (s : String) : Nat := s.utf8ByteSize

end PromptRegistry.Text.Utf8
