import PromptRegistry.Dict
import PromptRegistry.Json.Number

/-!
# JSON values

The members of an object stand in the order in which they are written. A value that was read has
them in ascending order of their names, each name once (`Ordered`).
-/

namespace PromptRegistry

inductive Json where
  | null
  | bool (b : Bool)
  | number (n : Json.Number)
  | string (s : String)
  | array (items : List Json)
  | object (members : List (String × Json))
deriving Inhabited

namespace Json

/-- The object with the given members; of two with the same name the later wins. -/
def ofMembers (members : List (String × Json)) : Json := .object (sortEntries members)

def nat (n : Nat) : Json := .number (.ofNat n)

def strings (ss : List String) : Json := .array (ss.map .string)

def ofDict (d : Dict String) : Json := .object (d.entries.map fun e => (e.1, .string e.2))

def isObject : Json → Bool
  | .object _ => true
  | _ => false

/-- A member that is left out when there is no value. -/
def optional (name : String) : Option Json → List (String × Json)
  | none => []
  | some v => [(name, v)]

mutual

/-- Every object inside has its members in ascending order. -/
def Ordered : Json → Prop
  | .array items => OrderedItems items
  | .object members => Ascending members ∧ OrderedMembers members
  | _ => True

def OrderedItems : List Json → Prop
  | [] => True
  | v :: vs => v.Ordered ∧ OrderedItems vs

def OrderedMembers : List (String × Json) → Prop
  | [] => True
  | (_, v) :: ms => v.Ordered ∧ OrderedMembers ms

end

mutual

def depth : Json → Nat
  | .array items => depthItems items + 1
  | .object members => depthMembers members + 1
  | _ => 0

def depthItems : List Json → Nat
  | [] => 0
  | v :: vs => max v.depth (depthItems vs)

def depthMembers : List (String × Json) → Nat
  | [] => 0
  | (_, v) :: ms => max v.depth (depthMembers ms)

end

end Json

end PromptRegistry
