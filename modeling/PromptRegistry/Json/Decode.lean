import PromptRegistry.Json.Draft

/-!
# Typed reading

A `Decode α` reads a draft as an `α`, from the front of the text to its end. The first fault
counts: text that is no JSON where the reading arrives at it (`malformed`), or JSON of another
shape than was asked for (`mismatched`). Containers are entered to a depth of 127.
-/

namespace PromptRegistry.Json

inductive Fault where
  | malformed
  | mismatched
deriving DecidableEq, Repr

/-- Reads a draft, given how many more containers may be entered. -/
abbrev Decode (α : Type) := Nat → Draft → Except Fault α

namespace Draft

def unexpected : Draft → Fault
  | .broken => .malformed
  | .number none => .malformed
  | .string none => .malformed
  | _ => .mismatched

mutual

def toJson (room : Nat) : Draft → Except Fault Json
  | .broken => .error .malformed
  | .null => .ok .null
  | .bool b => .ok (.bool b)
  | .number none => .error .malformed
  | .number (some n) => .ok (.number n)
  | .string none => .error .malformed
  | .string (some s) => .ok (.string s)
  | .array items closed =>
    match room with
    | 0 => .error .malformed
    | room + 1 => do
      let vs ← itemsToJson room [] items
      if closed then .ok (.array vs) else .error .malformed
  | .object members closed =>
    match room with
    | 0 => .error .malformed
    | room + 1 => do
      let ms ← membersToJson room [] members
      if closed then .ok (Json.ofMembers ms) else .error .malformed

def itemsToJson (room : Nat) (read : List Json) : List Draft → Except Fault (List Json)
  | [] => .ok read.reverse
  | d :: ds =>
    match toJson room d with
    | .error e => .error e
    | .ok v => itemsToJson room (v :: read) ds

def membersToJson (room : Nat) (read : List (String × Json)) :
    List (Option String × Draft) → Except Fault (List (String × Json))
  | [] => .ok read.reverse
  | (none, _) :: _ => .error .malformed
  | (some name, d) :: ms =>
    match toJson room d with
    | .error e => .error e
    | .ok v => membersToJson room ((name, v) :: read) ms

end

end Draft

namespace Decode

def json : Decode Json := Draft.toJson

def string : Decode String
  | _, .string (some s) => .ok s
  | _, d => .error d.unexpected

def checked (check : String → Option α) : Decode α := fun room d => do
  match check (← string room d) with
  | some v => .ok v
  | none => .error .mismatched

def bool : Decode Bool
  | _, .bool b => .ok b
  | _, d => .error d.unexpected

def nat (bound : Nat) : Decode Nat
  | _, .number (some n) =>
    match n.nat? bound with
    | some n => .ok n
    | none => .error .mismatched
  | _, d => .error d.unexpected

def uint32 : Decode UInt32 := fun room d => (nat UInt32.size room d).map UInt32.ofNat

def nullable (decode : Decode α) : Decode (Option α)
  | _, .null => .ok none
  | room, d => (decode room d).map some

def items (decode : Draft → Except Fault α) (read : List α) : List Draft → Except Fault (List α)
  | [] => .ok read.reverse
  | d :: ds =>
    match decode d with
    | .error e => .error e
    | .ok v => items decode (v :: read) ds

def list (decode : Decode α) : Decode (List α)
  | 0, .array .. => .error .malformed
  | room + 1, .array ds closed => do
    let vs ← items (decode room) [] ds
    if closed then .ok vs else .error .malformed
  | _, d => .error d.unexpected

def members (decode : Draft → Except Fault α) (read : List (String × α)) :
    List (Option String × Draft) → Except Fault (List (String × α))
  | [] => .ok read.reverse
  | (none, _) :: _ => .error .malformed
  | (some name, d) :: ms =>
    match decode d with
    | .error e => .error e
    | .ok v => members decode ((name, v) :: read) ms

def dict (decode : Decode α) : Decode (Dict α)
  | 0, .object .. => .error .malformed
  | room + 1, .object ms closed => do
    let es ← members (decode room) [] ms
    if closed then .ok (Dict.ofList es) else .error .malformed
  | _, d => .error d.unexpected

/-- How a record is read: `put` takes a field into what has been read of the others, and is
`none` for a name that is no field. An array must have at least `needed` items. -/
structure Record (σ : Type) where
  fields : List String
  put : σ → String → Nat → Draft → Option (Except Fault σ)
  needed : Nat := 0

/-- Reads members. No field may come twice; a member that is no field need only be complete. -/
def Record.readMembers (r : Record σ) (room : Nat) (seen : List String) (st : σ) :
    List (Option String × Draft) → Except Fault σ
  | [] => .ok st
  | (none, _) :: _ => .error .malformed
  | (some name, d) :: ms =>
    if seen.contains name then .error .mismatched
    else
      match r.put st name room d with
      | none => if d.complete then r.readMembers room seen st ms else .error .malformed
      | some (.error e) => .error e
      | some (.ok st) => r.readMembers room (name :: seen) st ms

def Record.readItems (r : Record σ) (room : Nat) (st : σ) :
    List String → List Draft → Except Fault σ
  | _, [] => .ok st
  | [], _ :: _ => .error .malformed
  | name :: names, d :: ds =>
    match r.put st name room d with
    | none => .error .mismatched
    | some (.error e) => .error e
    | some (.ok st) => r.readItems room st names ds

/-- A record, written as an object or as an array of its fields; `build` fills in what is
missing. -/
def record (r : Record σ) (start : σ) (build : σ → Option α) : Decode α
  | 0, .object .. => .error .malformed
  | 0, .array .. => .error .malformed
  | room + 1, .object ms closed => do
    let st ← r.readMembers room [] start ms
    if closed then (build st).elim (.error .mismatched) .ok else .error .malformed
  | room + 1, .array ds closed => do
    let st ← r.readItems room start r.fields (ds.take r.fields.length)
    if r.fields.length < ds.length || !closed then .error .malformed
    else if ds.length < r.needed then .error .mismatched
    else (build st).elim (.error .mismatched) .ok
  | _, d => .error d.unexpected

def greatestDepth : Nat := 127

/-- Reads a text. What follows the value counts only once the value has been read. -/
def run (decode : Decode α) (text : List (Option Char)) : Except Fault α := do
  let s := scan text
  let v ← decode greatestDepth s.draft
  if s.extra then .error .malformed else .ok v

def runString (decode : Decode α) (text : String) : Except Fault α :=
  decode.run (text.toList.map some)

end Decode

end PromptRegistry.Json
