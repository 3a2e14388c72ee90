import PromptRegistry.Prompt

/-!
# Orders

Prompts are sorted by clauses, one after another, and by name where the clauses leave two of
them level.
-/

namespace PromptRegistry.Search

inductive OrderField where
  | name
  | createdAt
  | updatedAt
deriving DecidableEq, Repr

structure OrderClause where
  field : OrderField
  descending : Bool
deriving DecidableEq, Repr

def OrderField.ofWord? (word : String) : Option OrderField :=
  if word = "name" then some .name
  else if word = "creation_timestamp" ∨ word = "timestamp" then some .createdAt
  else if word = "last_updated_timestamp" then some .updatedAt
  else none

def descending? : List String → Option Bool
  | [] => some false
  | ["asc"] => some false
  | ["desc"] => some true
  | _ => none

namespace OrderClause

def parse? (text : String) : Option OrderClause :=
  match (Text.words text.toList).map fun w => Text.lowerAsciiText (String.ofList w) with
  | [] => none
  | field :: direction => do
    some ⟨← OrderField.ofWord? field, ← descending? direction⟩

/-- Reads clauses; blank ones are passed over. The error is the first text that is no
clause. -/
def parseAll : List String → Except String (List OrderClause)
  | [] => .ok []
  | text :: texts =>
    if Text.isBlankText text then parseAll texts
    else
      match parse? text with
      | none => .error text
      | some c => (parseAll texts).map (c :: ·)

def compareField (a b : Prompt) : OrderField → Ordering
  | .name => compare a.name.text b.name.text
  | .createdAt => compare a.createdAt b.createdAt
  | .updatedAt => compare a.updatedAt b.updatedAt

def compare (c : OrderClause) (a b : Prompt) : Ordering :=
  if c.descending then (compareField a b c.field).swap else compareField a b c.field

def compareAll (a b : Prompt) : List OrderClause → Ordering
  | [] => compareField a b .name
  | c :: cs => (c.compare a b).then (compareAll a b cs)

end OrderClause

/-- Sorts prompts; those that are level keep their places. -/
def sortPrompts (order : List OrderClause) (ps : List Prompt) : List Prompt :=
  ps.mergeSort fun a b => (OrderClause.compareAll a b order).isLE

end PromptRegistry.Search
