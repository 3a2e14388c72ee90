import PromptRegistry.Settings.Environment
import PromptRegistry.Text.Alphanumeric

/-!
# Files of variables

A file of lines `NAME=value` that adds to the environment what is not there. Values may stand in
quotes, over several lines if need be, and refer to other variables behind a dollar sign. Reading
ends at the first line that is not well-formed; what stands in front of it counts.
-/

namespace PromptRegistry.Settings.EnvironmentFile

/-! ## Lines -/

inductive Quoting where
  | plain
  /-- Behind a blank, where a comment can begin. -/
  | blank
  | escaped
  | weak
  | weakEscaped
  | strong
  | strongEscaped
deriving DecidableEq

def Quoting.next (c : Char) : Quoting → Quoting
  | .plain => if Text.isBlank c && c ≠ '\n' && c ≠ '\r' then .blank else outside
  | .blank => outside
  | .escaped => .plain
  | .weak => if c = '\\' then .weakEscaped else if c = '"' then .plain else .weak
  | .weakEscaped => .weak
  | .strong => if c = '\\' then .strongEscaped else if c = '\'' then .plain else .strong
  | .strongEscaped => .strong
where
  outside : Quoting :=
    if c = '\\' then .escaped else if c = '"' then .weak else if c = '\'' then .strong else .plain

/-- The text up to a comment, if one begins, and the quoting at its end; both behind text that was
read, reversed. -/
def cutComment (q : Quoting) (read : List Char) : List Char → List Char × Option Quoting
  | [] => (read, some q)
  | c :: cs => if q = .blank ∧ c = '#' then (read, none) else cutComment (q.next c) (c :: read) cs

def physicalLines (line : List Char) : List Char → List (List Char)
  | [] => if line.isEmpty then [] else [line.reverse]
  | c :: cs =>
    if c = '\n' then (c :: line).reverse :: physicalLines [] cs
    else physicalLines (c :: line) cs

def dropEnd (cs : List Char) : List Char :=
  match cs.reverse with
  | '\n' :: '\r' :: rest => rest.reverse
  | '\n' :: rest => rest.reverse
  | _ => cs

/-- Joins lines that quotes hold together; `none` stands for a text that ends within quotes. -/
def logicalLines (q : Quoting) (read : List Char) : List (List Char) → List (Option (List Char))
  | [] => if read.isEmpty && q = .plain then [] else [none]
  | line :: lines =>
    let whole := read.reverse ++ line
    if (Text.trimStart whole).head? = some '#' then logicalLines .plain [] lines
    else
      match cutComment q read line with
      | (read, none) => some read.reverse :: logicalLines .plain [] lines
      | (read, some .plain) => some (dropEnd read.reverse) :: logicalLines .plain [] lines
      | (read, some q) => logicalLines q read lines

/-! ## Values -/

inductive Mode where
  | plain
  /-- Behind a blank, where only blanks and a comment may follow. -/
  | ended
  | escaped (inWeak : Bool)
  | strong
  | weak
  | name (inWeak : Bool) (read : List Char)
  | braces (inWeak : Bool) (read : List Char)

/-- Reads a value, behind what was read, reversed. `value` gives the texts of variables. -/
def readValue? (value : String → String) (read : List Char) : Mode → List Char → Option String
  | mode, [] =>
    match mode with
    | .strong | .weak | .escaped true | .braces .. | .name true _ => none
    | .name false name => some (finish (expand read name))
    | .plain | .ended | .escaped false => some (finish read)
  | mode, c :: cs =>
    match mode with
    | .ended =>
      if c = ' ' ∨ c = '\t' then readValue? value read .ended cs
      else if c = '#' then some (finish read)
      else none
    | .escaped inWeak =>
      if c = 'n' then readValue? value ('\n' :: read) (outOf inWeak) cs
      else if "\\'\"$ ".toList.contains c then readValue? value (c :: read) (outOf inWeak) cs
      else none
    | .strong =>
      if c = '\'' then readValue? value read .plain cs else readValue? value (c :: read) .strong cs
    | .name inWeak name =>
      if Text.isAlphanumeric c then readValue? value read (.name inWeak (c :: name)) cs
      else if c = '\x7b' ∧ name.isEmpty then readValue? value read (.braces inWeak []) cs
      else if c = '$' then readValue? value (expand read name) (.name inWeak []) cs
      else readValue? value (c :: expand read name) (outOf inWeak) cs
    | .braces inWeak name =>
      if c = '\x7d' then readValue? value (expand read name) (outOf inWeak) cs
      else readValue? value read (.braces inWeak (c :: name)) cs
    | .weak =>
      if c = '$' then readValue? value read (.name true []) cs
      else if c = '"' then readValue? value read .plain cs
      else if c = '\\' then readValue? value read (.escaped true) cs
      else readValue? value (c :: read) .weak cs
    | .plain =>
      if c = '$' then readValue? value read (.name false []) cs
      else if c = '\'' then readValue? value read .strong cs
      else if c = '"' then readValue? value read .weak cs
      else if c = '\\' then readValue? value read (.escaped false) cs
      else if c = ' ' ∨ c = '\t' then readValue? value read .ended cs
      else readValue? value (c :: read) .plain cs
where
  finish (read : List Char) : String := String.ofList read.reverse
  expand (read name : List Char) : List Char :=
    (value (String.ofList name.reverse)).toList.reverse ++ read
  outOf (inWeak : Bool) : Mode := if inWeak then .weak else .plain

/-! ## Variables -/

def readName? (cs : List Char) : Option (String × List Char) :=
  let isNameChar := fun c => Text.isAsciiAlphanumeric c || c = '_' || c = '.'
  match cs with
  | c :: _ =>
    if Text.isAsciiAlphanumeric c && !Text.isAsciiDigit c || c = '_' then
      some (String.ofList (cs.takeWhile isNameChar), cs.dropWhile isNameChar)
    else none
  | [] => none

/-- Reads a name and the equals sign behind it; the word "export" may stand in front of them. -/
def readTarget? (cs : List Char) : Option (String × List Char) := do
  let (name, cs) ← readName? cs
  match Text.trimStart cs with
  | '=' :: cs => some (name, Text.trimStart cs)
  | cs =>
    if name = "export" then
      let (name, cs) ← readName? cs
      match Text.trimStart cs with
      | '=' :: cs => some (name, Text.trimStart cs)
      | _ => none
    else none

/-- The variables of lines. `env` holds those of the process, `known` those of earlier lines. -/
def readLines (env known : Environment) : List (Option (List Char)) → Environment
  | [] => env
  | none :: _ => env
  | some line :: lines =>
    match Text.trimStart (Text.trimEnd line) with
    | [] => readLines env known lines
    | '#' :: _ => readLines env known lines
    | cs =>
      match readTarget? cs with
      | none => env
      | some (name, rest) =>
        let text? :=
          match rest with
          | [] => some ""
          | '#' :: _ => some ""
          | rest =>
            readValue? (fun v => ((env.get? v).or (known.get? v)).getD "") [] .plain rest
        match text? with
        | none => env
        | some text => readLines (env.provide name text) ((name, text) :: known) lines

/-- The environment with the variables of a file. A mark of the byte order in front of it is
passed over. -/
def addTo (env : Environment) (text : String) : Environment :=
  let cs := match text.toList with
    | '\ufeff' :: cs => cs
    | cs => cs
  readLines env [] (logicalLines .plain [] (physicalLines [] cs))

end PromptRegistry.Settings.EnvironmentFile
