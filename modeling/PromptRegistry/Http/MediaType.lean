import PromptRegistry.Text.Ascii

/-!
# Media types

The value of a `content-type` header: a type, a subtype, which may end in a suffix behind a plus
sign, and parameters behind semicolons.
-/

namespace PromptRegistry.Http

/-- A media type. Its parameters are read and not kept. -/
structure MediaType where
  type : List Char
  subtype : List Char
  suffix : Option (List Char)

namespace MediaType

def isTokenChar (c : Char) : Bool :=
  Text.isAsciiAlphanumeric c || "!#$%&'*+-.^_\x60|~".toList.contains c

def isQuotedChar (c : Char) : Bool := ' ' ≤ c && c ≠ '\x7f'

def afterQuoted? (cs : List Char) : Option (List Char) :=
  match cs.dropWhile (· = ' ') with
  | [] => some []
  | ';' :: rest => some rest
  | _ => none

/-- What follows the value of a parameter. A quoted value has at least one character, which may
be a quote itself. -/
def afterValue? : List Char → Option (List Char)
  | '"' :: c :: cs =>
    if isQuotedChar c then
      match cs.dropWhile fun c => c ≠ '"' && isQuotedChar c with
      | '"' :: rest => afterQuoted? rest
      | _ => none
    else none
  | cs =>
    match cs.dropWhile isTokenChar with
    | [] => some []
    | ';' :: rest => if (cs.takeWhile isTokenChar).isEmpty then none else some rest
    | _ => none

def afterParameter? (cs : List Char) : Option (List Char) :=
  match cs.dropWhile isTokenChar with
  | '=' :: rest => if (cs.takeWhile isTokenChar).isEmpty then none else afterValue? rest
  | _ => none

/-- The text is a list of parameters, given how many there can be. -/
def areParameters : Nat → List Char → Bool
  | 0, cs => (cs.dropWhile (· = ' ')).isEmpty
  | n + 1, cs =>
    match cs.dropWhile (· = ' ') with
    | [] => true
    | cs =>
      match afterParameter? cs with
      | some rest => areParameters n rest
      | none => false

/-- Splits a subtype at its last plus sign, unless that stands at the front. -/
def splitSuffix (cs : List Char) : List Char × Option (List Char) :=
  let suffix := (cs.reverse.takeWhile (· ≠ '+')).reverse
  let rest := cs.take (cs.length - suffix.length - 1)
  if suffix.length = cs.length ∨ rest.isEmpty then (cs, none) else (rest, some suffix)

def ofChars? (cs : List Char) : Option MediaType := do
  let type := cs.takeWhile isTokenChar
  if type.isEmpty then none
  match cs.dropWhile isTokenChar with
  | '/' :: cs =>
    let name := cs.takeWhile isTokenChar
    let (subtype, suffix) := splitSuffix (name.map Text.lowerAscii)
    match cs.dropWhile isTokenChar with
    | [] => some ⟨type.map Text.lowerAscii, subtype, suffix⟩
    | ';' :: rest =>
      if name.isEmpty ∨ !areParameters rest.length rest then none
      else some ⟨type.map Text.lowerAscii, subtype, suffix⟩
    | _ => none
  | _ => none

def isJson (t : MediaType) : Bool :=
  t.type = "application".toList &&
    (t.subtype = "json".toList || t.suffix = some "json".toList)

end MediaType

end PromptRegistry.Http
