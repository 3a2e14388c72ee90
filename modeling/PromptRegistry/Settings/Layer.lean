import PromptRegistry.Settings.Reading
import PromptRegistry.Settings.Real

/-!
# Layers

Settings come in layers, each laid over those before. A layer is a tree of values, read
leniently: a number may be spelled as a text, and a text is made of any plain value.
-/

namespace PromptRegistry.Settings

inductive Value where
  | nothing
  | flag (b : Bool)
  | integer (n : Int)
  | real (x : Real64)
  | text (s : String)
  | list (vs : List Value)
  | table (entries : List (String × Value))

namespace Value

def entries : Value → List (String × Value)
  | .table es => es
  | _ => []

def setEntry (key : String) (value : Value) : List (String × Value) → List (String × Value)
  | [] => [(key, value)]
  | e :: es => if e.1 = key then (key, value) :: es else e :: setEntry key value es

/-- What stands under a name in a table; a new table where nothing does. -/
def entryOrTable (key : String) (v : Value) : Value :=
  (lookupEntry key v.entries).getD (.table [])

/-- A name as it is kept. Names are the same in any case. -/
def keptName (key : String) : String := Text.lowerCase key

mutual

/-- Lays a value over the entry of a table. Tables are laid over entry by entry. -/
def put (key : String) (root : Value) : Value → Value
  | .table es =>
    .table (setEntry (keptName key) (putAll (root.entryOrTable (keptName key)) es) root.entries)
  | v => .table (setEntry (keptName key) v root.entries)

def putAll (root : Value) : List (String × Value) → Value
  | [] => root
  | (key, v) :: es => putAll (put key root v) es

end

def putAt (root : Value) : List String → Value → Value
  | [], _ => root
  | [key], v => put key root v
  | key :: path, v =>
    let inner := putAt (root.entryOrTable (keptName key)) path v
    .table (setEntry (keptName key) inner root.entries)

def isPathChar (c : Char) : Bool :=
  Text.isAsciiAlphanumeric c || c = ' ' || c = '_' || c = '-'

/-- The names in a written path, between points; a text of another form is one name. -/
def pathOf (key : String) : List String :=
  let names := key.splitOn "."
  if names.all fun name => !name.isEmpty && name.toList.all isPathChar then names else [key]

/-- Lays a layer over a tree; the names at its top are written paths. -/
def layOver (root : Value) (layer : List (String × Value)) : Value :=
  layer.foldl (fun root e => root.putAt (pathOf e.1) e.2) root

mutual

def ofJson : Json → Value
  | .null => .nothing
  | .bool b => .flag b
  | .number (.integer n) =>
    if n < 9223372036854775808 then .integer n else .real (.ofScaled false n.toNat 0)
  | .number (.real x) => .real (.finite x)
  | .string s => .text s
  | .array vs => .list (ofItems vs)
  | .object ms => .table (ofMembers ms)

def ofItems : List Json → List Value
  | [] => []
  | v :: vs => ofJson v :: ofItems vs

def ofMembers : List (String × Json) → List (String × Value)
  | [] => []
  | (name, v) :: ms => (name, ofJson v) :: ofMembers ms

end

def asText : Value → Option String
  | .text s => some s
  | .flag b => some (if b then "true" else "false")
  | .integer n => some (Text.Decimal.renderInt n)
  | .real x => some x.render
  | _ => none

def natOfText (s : String) : Option Nat :=
  match Text.lowerCase s with
  | "true" | "on" | "yes" => some 1
  | "false" | "off" | "no" => some 0
  | _ => Text.Decimal.readNat? UInt64.size s.toList

def asNat : Value → Option Nat
  | .integer (.ofNat n) => some n
  | .text s => natOfText s
  | .flag b => some (if b then 1 else 0)
  | .real x => some x.toNat
  | _ => none

end Value

def layerReading : Reading Value where
  text := Value.asText
  nat bound v := v.asNat.filter (· < bound)
  format
    | .text s => LogFormat.ofName? (Text.lowerCase s)
    | .table [(name, _)] => LogFormat.ofName? (Text.lowerCase name)
    | _ => none
  fields names
    | .table es => some (names.map fun name => lookupEntry name es)
    | .list vs => some (Reading.inOrder names vs)
    | _ => none

end PromptRegistry.Settings
