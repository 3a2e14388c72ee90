import PromptRegistry.Dict
import PromptRegistry.Text.Blank
import PromptRegistry.Text.Decimal

/-!
# Templates

A template is a text or a list of chat messages with placeholders: a name between double braces,
with blanks around it if need be. A content is cut into pieces once; reading its variables,
filling in values and the single-brace form are all maps over the pieces.
-/

namespace PromptRegistry

structure Message where
  role : String
  content : String
deriving DecidableEq, Repr

inductive Template where
  | text (content : String)
  | chat (messages : List Message)
deriving DecidableEq, Repr

inductive Formatted where
  | text (content : String)
  | chat (messages : List Message)
deriving DecidableEq, Repr

inductive TemplateError where
  | missingVariables (names : List String)
  | emptyText
  | emptyChat
  | emptyRole (index : Nat)
deriving DecidableEq, Repr

def TemplateError.message : TemplateError → String
  | .missingVariables names => "Missing variables: " ++ ", ".intercalate names
  | .emptyText => "Text template cannot be empty"
  | .emptyChat => "Chat template must contain at least one message"
  | .emptyRole i => "Chat message " ++ Text.Decimal.render i ++ " has an empty role"

/-- A name in double braces, with the blanks around it. -/
structure Placeholder where
  before : List Char
  name : List Char
  after : List Char
deriving DecidableEq, Repr

inductive Piece where
  | literal (chars : List Char)
  | placeholder (p : Placeholder)
deriving DecidableEq, Repr

namespace Placeholder

def isNameChar (c : Char) : Bool := c ≠ '\x7b' && c ≠ '\x7d' && !Text.isBlank c

def chars (p : Placeholder) : List Char :=
  '\x7b' :: '\x7b' :: (p.before ++ p.name ++ p.after ++ ['\x7d', '\x7d'])

/-- The placeholder behind an opening pair of braces, and what follows its closing pair. -/
def read? (cs : List Char) : Option (Placeholder × List Char) :=
  let before := cs.takeWhile Text.isBlank
  let cs := cs.dropWhile Text.isBlank
  let name := cs.takeWhile isNameChar
  let cs := cs.dropWhile isNameChar
  let after := cs.takeWhile Text.isBlank
  match cs.dropWhile Text.isBlank with
  | '\x7d' :: '\x7d' :: rest => if name.isEmpty then none else some (⟨before, name, after⟩, rest)
  | _ => none

def front? : List Char → Option (Placeholder × List Char)
  | '\x7b' :: '\x7b' :: cs => read? cs
  | _ => none

theorem length_dropWhile_le (p : Char → Bool) (cs : List Char) :
    (cs.dropWhile p).length ≤ cs.length := (List.dropWhile_sublist p).length_le

theorem length_of_front? {cs rest : List Char} {p : Placeholder}
    (h : front? cs = some (p, rest)) : rest.length < cs.length := by
  unfold front? at h
  split at h
  · next tail =>
    simp only [read?] at h
    split at h
    · next r hr =>
      split at h
      · cases h
      · cases h
        have h₁ := length_dropWhile_le Text.isBlank
          ((tail.dropWhile Text.isBlank).dropWhile isNameChar)
        have h₂ := length_dropWhile_le isNameChar (tail.dropWhile Text.isBlank)
        have h₃ := length_dropWhile_le Text.isBlank tail
        rw [hr] at h₁
        simp only [List.length_cons] at h₁ ⊢
        omega
    · cases h
  · cases h

end Placeholder

namespace Piece

def chars : Piece → List Char
  | .literal cs => cs
  | .placeholder p => p.chars

/-- The pieces of a content, behind those already cut, the newest first, and the literal text
since then, reversed. -/
def cutFrom (done : List Piece) (literal : List Char) (cs : List Char) : List Piece :=
  match _front : Placeholder.front? cs with
  | some (p, rest) =>
    let done := if literal.isEmpty then done else .literal literal.reverse :: done
    cutFrom (.placeholder p :: done) [] rest
  | none =>
    match cs with
    | c :: cs => cutFrom done (c :: literal) cs
    | [] => (if literal.isEmpty then done else .literal literal.reverse :: done).reverse
termination_by cs.length
decreasing_by
  · exact Placeholder.length_of_front? _front
  · simp

/-- The pieces of a content: placeholders, taken from the front, and the literal text between
them. -/
def cut (content : String) : List Piece := cutFrom [] [] content.toList

def name? : Piece → Option String
  | .literal _ => none
  | .placeholder p => some (String.ofList p.name)

def substitute (value : Placeholder → List Char) (pieces : List Piece) : String :=
  String.ofList (pieces.flatMap fun
    | .literal cs => cs
    | .placeholder p => value p)

end Piece

namespace Template

def isText : Template → Bool
  | .text _ => true
  | .chat _ => false

def contents : Template → List String
  | .text content => [content]
  | .chat messages => messages.map (·.content)

/-- Checks the structure: a text that is not blank, or messages that all have a role. -/
def check : Template → Except TemplateError Unit
  | .text content => if Text.isBlankText content then .error .emptyText else .ok ()
  | .chat messages =>
    if messages.isEmpty then .error .emptyChat
    else
      match messages.findIdx? fun m => Text.isBlankText m.role with
      | some i => .error (.emptyRole i)
      | none => .ok ()

def occurrences (content : String) : List String := (Piece.cut content).filterMap Piece.name?

def variableNames (t : Template) : List String := (t.contents.flatMap occurrences).eraseDups

/-- A content with values filled in; a placeholder without a value stays as it is. -/
def fill (values : Dict String) (content : String) : String :=
  Piece.substitute (fun p =>
    match values.get? (String.ofList p.name) with
    | some value => value.toList
    | none => p.chars) (Piece.cut content)

def missing (t : Template) (values : Dict String) : List String :=
  (Dict.ofList ((t.variableNames.filter fun name => !values.contains name).map (·, ()))).keys

/-- Fills in values. A variable without one is an error unless `allowPartial` is set. -/
def format (t : Template) (values : Dict String) (allowPartial : Bool) :
    Except TemplateError Formatted :=
  if !allowPartial && !(t.missing values).isEmpty then
    .error (.missingVariables (t.missing values))
  else
    .ok <| match t with
      | .text content => .text (fill values content)
      | .chat messages => .chat (messages.map fun m => ⟨m.role, fill values m.content⟩)

/-- A content with each placeholder reduced to its name in single braces. -/
def singleBraces (content : String) : String :=
  Piece.substitute (fun p => '\x7b' :: p.name ++ ['\x7d']) (Piece.cut content)

def toSingleBraces : Template → Template
  | .text content => .text (singleBraces content)
  | .chat messages => .chat (messages.map fun m => ⟨m.role, singleBraces m.content⟩)

end Template

namespace Formatted

def asText : Formatted → Option String
  | .text content => some content
  | .chat _ => none

def asMessages : Formatted → Option (List Message)
  | .text _ => none
  | .chat messages => some messages

end Formatted

end PromptRegistry
