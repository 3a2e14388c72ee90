import PromptRegistry.Settings.Layer

/-!
# TOML

Reads a TOML document as a layer of settings. A document is a list of statements, each on a line
of its own; putting them together checks that nothing is defined twice.
-/

namespace PromptRegistry.Settings.Toml

/-! ## Characters -/

def isBlank (c : Char) : Bool := c = ' ' || c = '\t'

def isPrintable (c : Char) : Bool := c = '\t' || (' ' ≤ c && c ≠ '\x7f')

def isNameChar (c : Char) : Bool := Text.isAsciiAlphanumeric c || c = '_' || c = '-'

def skipBlanks (cs : List Char) : List Char := cs.dropWhile isBlank

def skipComment (cs : List Char) : List Char :=
  match skipBlanks cs with
  | '#' :: cs => cs.dropWhile isPrintable
  | cs => cs

/-- What follows the end of a line, where nothing but a comment may stand in front of it. -/
def endLine? (cs : List Char) : Option (List Char) :=
  match skipComment cs with
  | [] => some []
  | '\n' :: cs => some cs
  | '\r' :: '\n' :: cs => some cs
  | _ => none

/-- What follows blanks, comments and ends of lines, given how many lines there can be. -/
def skipLines : Nat → List Char → List Char
  | 0, cs => skipComment cs
  | n + 1, cs =>
    match skipComment cs with
    | '\n' :: cs => skipLines n cs
    | '\r' :: '\n' :: cs => skipLines n cs
    | cs => cs

/-! ## Texts -/

def readCode? (count : Nat) (cs : List Char) : Option (Char × List Char) :=
  let ds := cs.take count
  if ds.length < count ∨ !ds.all isHexDigit then none
  else
    let n := ds.foldl (fun n d => 16 * n + hexDigit d) 0
    if n < 0xd800 ∨ (0xdfff < n ∧ n < 0x110000) then some (Char.ofNat n, cs.drop count) else none
where
  isHexDigit (c : Char) : Bool :=
    Text.isAsciiDigit c || ('a' ≤ Text.lowerAscii c && Text.lowerAscii c ≤ 'f')
  hexDigit (c : Char) : Nat :=
    if Text.isAsciiDigit c then c.toNat - 48 else (Text.lowerAscii c).toNat - 87

def readEscape? : List Char → Option (Char × List Char)
  | 'b' :: cs => some ('\x08', cs)
  | 't' :: cs => some ('\t', cs)
  | 'n' :: cs => some ('\n', cs)
  | 'f' :: cs => some ('\x0c', cs)
  | 'r' :: cs => some ('\r', cs)
  | '"' :: cs => some ('"', cs)
  | '\\' :: cs => some ('\\', cs)
  | 'u' :: cs => readCode? 4 cs
  | 'U' :: cs => readCode? 8 cs
  | _ => none

/-- What follows a backslash at the end of a line: blanks and lines are passed over. -/
def joinLine? (cs : List Char) : Option (List Char) :=
  match skipBlanks cs with
  | '\n' :: cs => some (cs.dropWhile fun c => isBlank c || c = '\n' || c = '\r')
  | '\r' :: '\n' :: cs => some (cs.dropWhile fun c => isBlank c || c = '\n' || c = '\r')
  | _ => none

/-- Reads the rest of a text in double quotes on one line, behind what was read, reversed. -/
def readBasic? : Nat → List Char → List Char → Option (String × List Char)
  | 0, _, _ => none
  | _ + 1, read, '"' :: cs => some (String.ofList read.reverse, cs)
  | n + 1, read, '\\' :: cs => do
    let (c, cs) ← readEscape? cs
    readBasic? n (c :: read) cs
  | n + 1, read, c :: cs => if isPrintable c then readBasic? n (c :: read) cs else none
  | _ + 1, _, [] => none

def readLiteral? (cs : List Char) : Option (String × List Char) :=
  let inside := fun c => c ≠ '\'' && isPrintable c
  match cs.dropWhile inside with
  | '\'' :: rest => some (String.ofList (cs.takeWhile inside), rest)
  | _ => none

/-- The end of a text in three quotes: up to two quotes in front of the closing ones belong to
it. -/
def closing? (quote : Char) (cs : List Char) : Option (List Char × List Char) :=
  let quotes := cs.takeWhile (· = quote)
  if quotes.length < 3 then none
  else
    let inner := min (quotes.length - 3) 2
    some (List.replicate inner quote, cs.drop (inner + 3))

/-- Reads the rest of a text in three quotes; escapes are resolved in double ones alone. -/
def readLong? (quote : Char) : Nat → List Char → List Char → Option (String × List Char)
  | 0, _, _ => none
  | n + 1, read, cs =>
    match closing? quote cs with
    | some (inner, rest) => some (String.ofList (read.reverse ++ inner), rest)
    | none =>
      match cs with
      | [] => none
      | '\r' :: '\n' :: cs => readLong? quote n ('\n' :: read) cs
      | '\n' :: cs => readLong? quote n ('\n' :: read) cs
      | c :: cs =>
        if c = '\\' ∧ quote = '"' then
          match joinLine? cs with
          | some cs => readLong? quote n read cs
          | none => do
            let (c, cs) ← readEscape? cs
            readLong? quote n (c :: read) cs
        else if isPrintable c then readLong? quote n (c :: read) cs
        else none

def skipFirstLine : List Char → List Char
  | '\n' :: cs => cs
  | '\r' :: '\n' :: cs => cs
  | cs => cs

def readText? (cs : List Char) : Option (String × List Char) :=
  match cs with
  | '"' :: '"' :: '"' :: cs => readLong? '"' (cs.length + 1) [] (skipFirstLine cs)
  | '\'' :: '\'' :: '\'' :: cs => readLong? '\'' (cs.length + 1) [] (skipFirstLine cs)
  | '"' :: cs => readBasic? (cs.length + 1) [] cs
  | '\'' :: cs => readLiteral? cs
  | _ => none

/-! ## Names -/

def readName? (cs : List Char) : Option (String × List Char) :=
  match cs with
  | '"' :: cs => readBasic? (cs.length + 1) [] cs
  | '\'' :: cs => readLiteral? cs
  | cs =>
    let name := cs.takeWhile isNameChar
    if name.isEmpty then none else some (String.ofList name, cs.dropWhile isNameChar)

def readPath? : Nat → List Char → Option (List String × List Char)
  | 0, _ => none
  | n + 1, cs => do
    let (name, cs) ← readName? (skipBlanks cs)
    match skipBlanks cs with
    | '.' :: cs =>
      let (names, cs) ← readPath? n cs
      some (name :: names, cs)
    | cs => some ([name], cs)

/-! ## Numbers and dates -/

/-- The digits of a run with single underscores between digits. -/
def digits? (isDigit : Char → Bool) : List Char → Option (List Char)
  | [] => none
  | [d] => if isDigit d then some [d] else none
  | d :: '_' :: ds => if isDigit d then (digits? isDigit ds).map (d :: ·) else none
  | d :: ds => if isDigit d then (digits? isDigit ds).map (d :: ·) else none

/-- The digits of a whole part, which does not begin with a needless zero. -/
def whole? (cs : List Char) : Option (List Char) :=
  match digits? Text.isAsciiDigit cs with
  | some ('0' :: _ :: _) => none
  | ds => ds

def ranged? (n : Int) : Option Value :=
  if -9223372036854775808 ≤ n ∧ n < 9223372036854775808 then some (.integer n) else none

def inBase? (base : Nat) (cs : List Char) : Option Value := do
  let value := readCode?.hexDigit
  let ds ← digits? (fun c => readCode?.isHexDigit c && value c < base) cs
  ranged? (ds.foldl (fun n d => base * n + value d) 0 : Nat)

def real? (negative : Bool) (cs : List Char) : Option Value := do
  let isPower := fun c => c = 'e' || c = 'E'
  let body := cs.takeWhile (!isPower ·)
  let whole ← whole? (body.takeWhile (· ≠ '.'))
  let fraction ← match body.dropWhile (· ≠ '.') with
    | _ :: fraction => digits? Text.isAsciiDigit fraction
    | [] => some []
  let power ← match cs.dropWhile (!isPower ·) with
    | _ :: power =>
      let (negative, ds) := Real64.splitSign power
      (digits? Text.isAsciiDigit ds).map fun ds =>
        if negative then -(Text.Decimal.value ds : Int) else Text.Decimal.value ds
    | [] => some 0
  some (.real (.ofScaled negative (Text.Decimal.value (whole ++ fraction))
    (power - fraction.length)))

/-- The digits of a text in their places, the other characters as they are. -/
def shape (cs : List Char) : String :=
  String.ofList (cs.map fun c => if Text.isAsciiDigit c then '0' else c)

def isTime (cs : List Char) : Bool :=
  shape (cs.take 8) = "00:00:00" &&
    match cs.drop 8 with
    | [] => true
    | c :: ds => c = '.' && !ds.isEmpty && ds.all Text.isAsciiDigit

def isZonedTime (cs : List Char) : Bool :=
  let zone := (cs.dropWhile fun c => c ≠ 'Z' && c ≠ '+' && c ≠ '-')
  isTime (cs.take (cs.length - zone.length)) &&
    (["", "Z", "+00:00", "-00:00"].contains (shape zone))

def isDate (cs : List Char) : Bool :=
  isTime cs ||
    shape (cs.take 10) = "0000-00-00" &&
      match cs.drop 10 with
      | [] => true
      | c :: time => c = 'T' && isZonedTime time

def ofWord? (cs : List Char) : Option Value :=
  match String.ofList cs with
  | "true" => some (.flag true)
  | "false" => some (.flag false)
  | _ =>
    let (negative, digits) := Real64.splitSign cs
    match digits with
    | ['i', 'n', 'f'] => some (.real (.infinite negative))
    | ['n', 'a', 'n'] => some (.real .undefined)
    | _ =>
      match cs with
      | '0' :: 'x' :: ds => inBase? 16 ds
      | '0' :: 'o' :: ds => inBase? 8 ds
      | '0' :: 'b' :: ds => inBase? 2 ds
      | _ =>
        match whole? digits with
        | some ds =>
          let n : Int := Text.Decimal.value ds
          ranged? (if negative then -n else n)
        | none =>
          match real? negative digits with
          | some v => some v
          | none =>
            let date := cs.map fun c => if c = 't' then 'T' else if c = 'z' then 'Z' else c
            if isDate date then some (.text (String.ofList date)) else none

def isWordChar (c : Char) : Bool := isNameChar c || c = '+' || c = '.' || c = ':'

/-- Reads a word; a blank may stand between a date and a time. -/
def readWord? (cs : List Char) : Option (Value × List Char) :=
  let word := cs.takeWhile isWordChar
  let rest := cs.dropWhile isWordChar
  match rest with
  | ' ' :: d :: _ =>
    if shape word = "0000-00-00" && Text.isAsciiDigit d then
      let rest := rest.drop 1
      (ofWord? (word ++ 'T' :: rest.takeWhile isWordChar)).map (·, rest.dropWhile isWordChar)
    else (ofWord? word).map (·, rest)
  | _ => (ofWord? word).map (·, rest)

/-! ## Tables -/

inductive Origin where
  /-- On the way to a table with a header. -/
  | passed
  /-- On the way to a name with points. -/
  | pointed
  /-- By a header of its own. -/
  | declared
deriving DecidableEq

inductive Node where
  | leaf (v : Value)
  | branch (origin : Origin) (entries : List (String × Node))
  /-- An array of tables, of which the last is open. -/
  | series (before : List (List (String × Node))) (last : List (String × Node))

abbrev Entries := List (String × Node)

namespace Entries

def find? (es : Entries) (name : String) : Option Node := lookupEntry name es

def set (es : Entries) (name : String) (n : Node) : Entries :=
  match es with
  | [] => [(name, n)]
  | e :: rest => if e.1 = name then (name, n) :: rest else e :: set rest name n

/-- Changes the table that names lead to; tables on the way are made where they are missing.
Names with points do not lead into tables with a header. -/
def descend (pointed : Bool) (origin : Origin) (change : Origin → Entries → Option Entries) :
    List String → Entries → Option Entries
  | [], es => change origin es
  | name :: names, es => do
    let fresh := if pointed then Origin.pointed else .passed
    match es.find? name with
    | none =>
      let inner ← descend pointed fresh change names []
      some (es.set name (.branch fresh inner))
    | some (.leaf _) => none
    | some (.series before last) =>
      let inner ← descend pointed .declared change names last
      some (es.set name (.series before inner))
    | some (.branch origin inner) =>
      if pointed && origin = .declared then none
      else
        let inner ← descend pointed origin change names inner
        some (es.set name (.branch origin inner))

def add (path : List String) (v : Value) (es : Entries) : Option Entries :=
  match path.reverse with
  | [] => none
  | name :: front =>
    descend true .declared (fun origin es =>
      if !front.isEmpty && origin ≠ .pointed then none
      else if (es.find? name).isSome then none
      else some (es.set name (.leaf v))) front.reverse es

def openTable (path : List String) (es : Entries) : Option Entries :=
  match path.reverse with
  | [] => none
  | name :: front =>
    descend false .declared (fun _ es =>
      match es.find? name with
      | none => some (es.set name (.branch .declared []))
      | some (.branch .passed inner) => some (es.set name (.branch .declared inner))
      | some _ => none) front.reverse es

def openItem (path : List String) (es : Entries) : Option Entries :=
  match path.reverse with
  | [] => none
  | name :: front =>
    descend false .declared (fun _ es =>
      match es.find? name with
      | none => some (es.set name (.series [] []))
      | some (.series before last) => some (es.set name (.series (before ++ [last]) []))
      | some _ => none) front.reverse es

end Entries

mutual

def Node.value : Node → Value
  | .leaf v => v
  | .branch _ es => .table (entryValues es)
  | .series before last => .list (tableValues before ++ [.table (entryValues last)])

def entryValues : List (String × Node) → List (String × Value)
  | [] => []
  | (name, n) :: es => (name, n.value) :: entryValues es

def tableValues : List (List (String × Node)) → List Value
  | [] => []
  | es :: rest => .table (entryValues es) :: tableValues rest

end

/-! ## Values -/

mutual

/-- Reads a value, given how deep and how long it can be. -/
def readValue? : Nat → List Char → Option (Value × List Char)
  | 0, _ => none
  | n + 1, cs =>
    match cs with
    | '"' :: _ => (readText? cs).map fun (s, cs) => (.text s, cs)
    | '\'' :: _ => (readText? cs).map fun (s, cs) => (.text s, cs)
    | '[' :: cs => readItems? n [] (skipLines cs.length cs)
    | '\x7b' :: cs =>
      match skipBlanks cs with
      | '\x7d' :: cs => some (.table [], cs)
      | cs => readPairs? n [] cs
    | cs => readWord? cs

def readItems? : Nat → List Value → List Char → Option (Value × List Char)
  | 0, _, _ => none
  | n + 1, read, cs =>
    match cs with
    | ']' :: cs => some (.list read.reverse, cs)
    | cs => do
      let (v, cs) ← readValue? n cs
      match skipLines cs.length cs with
      | ',' :: cs => readItems? n (v :: read) (skipLines cs.length cs)
      | ']' :: cs => some (.list (v :: read).reverse, cs)
      | _ => none

def readPairs? : Nat → Entries → List Char → Option (Value × List Char)
  | 0, _, _ => none
  | n + 1, es, cs => do
    let (path, cs) ← readPath? cs.length cs
    match cs with
    | '=' :: cs =>
      let (v, cs) ← readValue? n (skipBlanks cs)
      let es ← es.add path v
      match skipBlanks cs with
      | ',' :: cs => readPairs? n es cs
      | '\x7d' :: cs => some (.table (entryValues es), cs)
      | _ => none
    | _ => none

end

/-! ## Documents -/

/-- A document while it is being read: the path of the last header and the tables so far. -/
structure Draft where
  path : List String
  entries : Entries

namespace Draft

def add (d : Draft) (names : List String) (v : Value) : Option Draft := do
  let es ← d.entries.descend false .declared (fun _ es => es.add names v) d.path
  some { d with entries := es }

def statement? (d : Draft) (cs : List Char) : Option (Draft × List Char) :=
  match cs with
  | '[' :: '[' :: cs => do
    let (path, cs) ← readPath? cs.length cs
    match cs with
    | ']' :: ']' :: cs => some (⟨path, ← d.entries.openItem path⟩, ← endLine? cs)
    | _ => none
  | '[' :: cs => do
    let (path, cs) ← readPath? cs.length cs
    match cs with
    | ']' :: cs => some (⟨path, ← d.entries.openTable path⟩, ← endLine? cs)
    | _ => none
  | cs => do
    let (names, cs) ← readPath? cs.length cs
    match cs with
    | '=' :: cs =>
      let (v, cs) ← readValue? (2 * cs.length + 1) (skipBlanks cs)
      some (← d.add names v, ← endLine? cs)
    | _ => none

def statements? : Nat → Draft → List Char → Option Draft
  | 0, _, _ => none
  | n + 1, d, cs =>
    match skipBlanks (skipLines cs.length cs) with
    | [] => some d
    | cs => do
      let (d, cs) ← d.statement? cs
      statements? n d cs

end Draft

/-- Reads a document. A mark of the byte order in front of it is passed over. -/
def parse? (text : String) : Option (List (String × Value)) :=
  let cs := match text.toList with
    | '\ufeff' :: cs => cs
    | cs => cs
  (Draft.statements? (cs.length + 1) ⟨[], []⟩ cs).map fun d => entryValues d.entries

end PromptRegistry.Settings.Toml
