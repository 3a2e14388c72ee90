import PromptRegistry.Json.Basic

/-!
# JSON texts read as far as they go

A text is taken one character at a time. The result, a `Draft`, is what a reader who goes
through the text from the front gets to see: values up to the first fault, with every array and
object that the text leaves open marked as such. Faults that only matter to one who wants the
value, a string that is no text or a number out of range, stay inside the draft, so that a value
nobody asks for may have them.
-/

namespace PromptRegistry.Json

/-- A value as far as the text goes. Members and items are in the order of the text. -/
inductive Draft where
  | broken
  | null
  | bool (b : Bool)
  /-- A numeral; its number is missing where that is out of range. -/
  | number (n : Option Number)
  /-- A string; its text is missing where the characters spell none. -/
  | string (s : Option String)
  | array (items : List Draft) (closed : Bool)
  | object (members : List (Option String × Draft)) (closed : Bool)
deriving Inhabited

def Draft.complete : Draft → Bool
  | .broken => false
  | .array _ closed => closed
  | .object _ closed => closed
  | _ => true

namespace Scanner

/-- A string being read. `high` is the first half of a character written as two escapes. -/
structure Spelling where
  chars : List Char
  high : Option Nat
  intact : Bool

def Spelling.empty : Spelling := ⟨[], none, true⟩

def Spelling.push (s : Spelling) (c : Char) : Spelling :=
  ⟨c :: s.chars, none, s.intact && s.high.isNone⟩

def Spelling.spoil (s : Spelling) : Spelling := ⟨s.chars, none, false⟩

def Spelling.pushUnit (s : Spelling) (u : Nat) : Spelling :=
  match s.high with
  | some h =>
    if 0xDC00 ≤ u ∧ u ≤ 0xDFFF then
      ⟨Char.ofNat (0x10000 + (h - 0xD800) * 0x400 + (u - 0xDC00)) :: s.chars, none, s.intact⟩
    else s.spoil
  | none =>
    if 0xD800 ≤ u ∧ u ≤ 0xDBFF then ⟨s.chars, some u, s.intact⟩
    else if 0xDC00 ≤ u ∧ u ≤ 0xDFFF then s.spoil
    else s.push (Char.ofNat u)

def Spelling.text? (s : Spelling) : Option String :=
  if s.intact && s.high.isNone then some (String.ofList s.chars.reverse) else none

inductive Phase where
  | minus | zero | whole | point | fraction | mark | sign | power
deriving DecidableEq

def Phase.mayEnd : Phase → Bool
  | .zero | .whole | .fraction | .power => true
  | _ => false

def Phase.next? (p : Phase) (c : Char) : Option Phase :=
  let digit := Text.isAsciiDigit c
  match p with
  | .minus => if c = '0' then some .zero else if digit then some .whole else none
  | .zero => if c = '.' then some .point else if c = 'e' ∨ c = 'E' then some .mark else none
  | .whole =>
    if digit then some .whole
    else if c = '.' then some .point
    else if c = 'e' ∨ c = 'E' then some .mark
    else none
  | .point => if digit then some .fraction else none
  | .fraction =>
    if digit then some .fraction else if c = 'e' ∨ c = 'E' then some .mark else none
  | .mark => if digit then some .power else if c = '+' ∨ c = '-' then some .sign else none
  | .sign => if digit then some .power else none
  | .power => if digit then some .power else none

def Phase.refuses (p : Phase) (c : Char) : Bool :=
  !p.mayEnd || (p = .zero && Text.isAsciiDigit c)

inductive Role where
  | value
  | name (members : List (Option String × Draft))

/-- Where the scanner stands. Lists of items and members have the newest first. -/
inductive Mode where
  | value
  | firstItem
  | afterItem (items : List Draft)
  | firstName
  | nextName (members : List (Option String × Draft))
  | afterName (members : List (Option String × Draft)) (name : Option String)
  | afterMember (members : List (Option String × Draft))
  | string (role : Role) (s : Spelling)
  | escape (role : Role) (s : Spelling)
  | unit (role : Role) (s : Spelling) (owed n : Nat)
  | numeral (phase : Phase) (chars : List Char)
  | literal (rest : List Char) (v : Draft)
  /-- Behind the outermost value; `extra` once more than blanks has followed it. -/
  | finished (v : Draft) (extra : Bool)
  | cut (v : Draft)

inductive Frame where
  | items (before : List Draft)
  | members (before : List (Option String × Draft)) (name : Option String)

end Scanner

/-- A scanner: the containers around the current place, the innermost first, and the mode. -/
structure Scanner where
  stack : List Scanner.Frame
  mode : Scanner.Mode

namespace Scanner

def Mode.partialValue : Mode → Draft
  | .firstItem => .array [] false
  | .afterItem items => .array items.reverse false
  | .firstName => .object [] false
  | .nextName members => .object members.reverse false
  | .afterName members name => .object ((name, .broken) :: members).reverse false
  | .afterMember members => .object members.reverse false
  | .string (.name members) _ => .object members.reverse false
  | .escape (.name members) _ => .object members.reverse false
  | .unit (.name members) .. => .object members.reverse false
  | .finished v _ => v
  | .cut v => v
  | _ => .broken

def fault (s : Scanner) : Scanner := ⟨s.stack, .cut s.mode.partialValue⟩

def deliver (stack : List Frame) (v : Draft) : Scanner :=
  match stack with
  | [] => ⟨[], .finished v false⟩
  | .items before :: stack => ⟨stack, .afterItem (v :: before)⟩
  | .members before name :: stack => ⟨stack, .afterMember ((name, v) :: before)⟩

def isGap (c : Char) : Bool := c = ' ' || c = '\n' || c = '\t' || c = '\r'

def beginValue (stack : List Frame) (c : Char) : Scanner :=
  if c = '"' then ⟨stack, .string .value .empty⟩
  else if c = '[' then ⟨stack, .firstItem⟩
  else if c = '\x7b' then ⟨stack, .firstName⟩
  else if c = '-' then ⟨stack, .numeral .minus [c]⟩
  else if c = '0' then ⟨stack, .numeral .zero [c]⟩
  else if Text.isAsciiDigit c then ⟨stack, .numeral .whole [c]⟩
  else if c = 't' then ⟨stack, .literal ['r', 'u', 'e'] (.bool true)⟩
  else if c = 'f' then ⟨stack, .literal ['a', 'l', 's', 'e'] (.bool false)⟩
  else if c = 'n' then ⟨stack, .literal ['u', 'l', 'l'] .null⟩
  else ⟨stack, .cut .broken⟩

def between (s : Scanner) (c : Char) : Scanner :=
  match s.mode with
  | .value => beginValue s.stack c
  | .firstItem =>
    if c = ']' then deliver s.stack (.array [] true) else beginValue (.items [] :: s.stack) c
  | .afterItem items =>
    if c = ',' then ⟨.items items :: s.stack, .value⟩
    else if c = ']' then deliver s.stack (.array items.reverse true)
    else s.fault
  | .firstName =>
    if c = '\x7d' then deliver s.stack (.object [] true)
    else if c = '"' then ⟨s.stack, .string (.name []) .empty⟩
    else s.fault
  | .nextName members =>
    if c = '"' then ⟨s.stack, .string (.name members) .empty⟩ else s.fault
  | .afterName members name =>
    if c = ':' then ⟨.members members name :: s.stack, .value⟩ else s.fault
  | .afterMember members =>
    if c = ',' then ⟨s.stack, .nextName members⟩
    else if c = '\x7d' then deliver s.stack (.object members.reverse true)
    else s.fault
  | .finished v _ => ⟨s.stack, .finished v true⟩
  | _ => s

def endString (stack : List Frame) (role : Role) (t : Spelling) : Scanner :=
  match role with
  | .value => deliver stack (.string t.text?)
  | .name members => ⟨stack, .afterName members t.text?⟩

def escaped? (c : Char) : Option Char :=
  if c = '"' ∨ c = '\\' ∨ c = '/' then some c
  else if c = 'b' then some '\x08'
  else if c = 'f' then some '\x0c'
  else if c = 'n' then some '\n'
  else if c = 'r' then some '\r'
  else if c = 't' then some '\t'
  else none

def hexValue? (c : Char) : Option Nat :=
  if '0' ≤ c ∧ c ≤ '9' then some (c.toNat - 48)
  else if 'a' ≤ c ∧ c ≤ 'f' then some (c.toNat - 87)
  else if 'A' ≤ c ∧ c ≤ 'F' then some (c.toNat - 55)
  else none

def stepChar (s : Scanner) (c : Char) : Scanner :=
  match s.mode with
  | .string role t =>
    if c = '"' then endString s.stack role t
    else if c = '\\' then ⟨s.stack, .escape role t⟩
    else if c.toNat < 0x20 then s.fault
    else ⟨s.stack, .string role (t.push c)⟩
  | .escape role t =>
    if c = 'u' then ⟨s.stack, .unit role t 4 0⟩
    else
      match escaped? c with
      | some d => ⟨s.stack, .string role (t.push d)⟩
      | none => s.fault
  | .unit role t owed n =>
    match hexValue? c with
    | some d =>
      if owed ≤ 1 then ⟨s.stack, .string role (t.pushUnit (n * 16 + d))⟩
      else ⟨s.stack, .unit role t (owed - 1) (n * 16 + d)⟩
    | none => s.fault
  | .numeral phase chars =>
    match phase.next? c with
    | some phase => ⟨s.stack, .numeral phase (c :: chars)⟩
    | none =>
      if phase.refuses c then s.fault
      else
        let s := deliver s.stack (.number (Number.ofChars? chars.reverse))
        if isGap c then s else between s c
  | .literal rest v =>
    match rest with
    | [] => s.fault
    | [d] => if c = d then deliver s.stack v else s.fault
    | d :: rest => if c = d then ⟨s.stack, .literal rest v⟩ else s.fault
  | .cut _ => s
  | _ => if isGap c then s else between s c

/-- Takes the next character, or a byte that belongs to none: inside a string that only spoils
the text. -/
def step (s : Scanner) : Option Char → Scanner
  | some c => stepChar s c
  | none =>
    match s.mode with
    | .string role t => ⟨s.stack, .string role t.spoil⟩
    | .numeral phase chars =>
      if phase.mayEnd then
        let s := deliver s.stack (.number (Number.ofChars? chars.reverse))
        match s.mode with
        | .finished v _ => ⟨s.stack, .finished v true⟩
        | _ => s.fault
      else s.fault
    | .finished v _ => ⟨s.stack, .finished v true⟩
    | _ => s.fault

def start : Scanner := ⟨[], .value⟩

def settle (s : Scanner) : Scanner :=
  match s.mode with
  | .numeral phase chars =>
    if phase.mayEnd then deliver s.stack (.number (Number.ofChars? chars.reverse)) else s
  | _ => s

def unwind (v : Draft) : List Frame → Draft
  | [] => v
  | .items before :: stack => unwind (.array (v :: before).reverse false) stack
  | .members before name :: stack => unwind (.object ((name, v) :: before).reverse false) stack

end Scanner

/-- The outcome of a scan: the draft, and whether more than blanks follows its value. -/
structure Scan where
  draft : Draft
  extra : Bool

def Scanner.finish (s : Scanner) : Scan :=
  let s := s.settle
  match s.mode with
  | .finished v extra => ⟨v, extra⟩
  | mode => ⟨Scanner.unwind mode.partialValue s.stack, false⟩

def scan (text : List (Option Char)) : Scan := (text.foldl Scanner.step Scanner.start).finish

end PromptRegistry.Json
