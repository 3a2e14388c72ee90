import PromptRegistry.Json.Basic

/-!
# Writing JSON

The compact form has no blanks; the indented form puts each item and member on a line of its
own, two blanks further in than its container.
-/

namespace PromptRegistry.Json

def hexDigit (d : Nat) : Char := if d < 10 then Char.ofNat (48 + d) else Char.ofNat (87 + d)

/-- The written form of a character in a string: only quotes, backslashes and controls are
escaped. -/
def escapeChar (c : Char) : List Char :=
  if c = '"' then ['\\', '"']
  else if c = '\\' then ['\\', '\\']
  else if c = '\n' then ['\\', 'n']
  else if c = '\r' then ['\\', 'r']
  else if c = '\t' then ['\\', 't']
  else if c = '\x08' then ['\\', 'b']
  else if c = '\x0c' then ['\\', 'f']
  else if c.toNat < 0x20 then
    ['\\', 'u', '0', '0', hexDigit (c.toNat / 16), hexDigit (c.toNat % 16)]
  else [c]

def stringChars (s : String) : List Char := '"' :: s.toList.flatMap escapeChar ++ ['"']

mutual

def chars : Json → List Char
  | .null => ['n', 'u', 'l', 'l']
  | .bool true => ['t', 'r', 'u', 'e']
  | .bool false => ['f', 'a', 'l', 's', 'e']
  | .number n => n.render.toList
  | .string s => stringChars s
  | .array items => '[' :: itemChars items ++ [']']
  | .object members => '\x7b' :: memberChars members ++ ['\x7d']

def itemChars : List Json → List Char
  | [] => []
  | [v] => v.chars
  | v :: vs => v.chars ++ ',' :: itemChars vs

def memberChars : List (String × Json) → List Char
  | [] => []
  | [(name, v)] => stringChars name ++ ':' :: v.chars
  | (name, v) :: ms => stringChars name ++ ':' :: v.chars ++ ',' :: memberChars ms

end

def render (v : Json) : String := String.ofList v.chars

def lineStart (depth : Nat) : List Char := '\n' :: List.replicate (2 * depth) ' '

mutual

def indentedChars (depth : Nat) : Json → List Char
  | .array [] => ['[', ']']
  | .array items => '[' :: indentedItems (depth + 1) items ++ lineStart depth ++ [']']
  | .object [] => ['\x7b', '\x7d']
  | .object members =>
    '\x7b' :: indentedMembers (depth + 1) members ++ lineStart depth ++ ['\x7d']
  | .null => ['n', 'u', 'l', 'l']
  | .bool true => ['t', 'r', 'u', 'e']
  | .bool false => ['f', 'a', 'l', 's', 'e']
  | .number n => n.render.toList
  | .string s => stringChars s

def indentedItems (depth : Nat) : List Json → List Char
  | [] => []
  | [v] => lineStart depth ++ v.indentedChars depth
  | v :: vs => lineStart depth ++ v.indentedChars depth ++ ',' :: indentedItems depth vs

def indentedMembers (depth : Nat) : List (String × Json) → List Char
  | [] => []
  | [(name, v)] =>
    lineStart depth ++ stringChars name ++ ':' :: ' ' :: v.indentedChars depth
  | (name, v) :: ms =>
    lineStart depth ++ stringChars name ++ ':' :: ' ' :: v.indentedChars depth ++
      ',' :: indentedMembers depth ms

end

def renderIndented (v : Json) : String := String.ofList (v.indentedChars 0)

end PromptRegistry.Json
