import PromptRegistry.Search.Filter

/-!
# Patterns as regular expressions

A pattern can be handed to a matcher of regular expressions. Its expression is anchored at both
ends and has `.*` for any run of characters and `.` for any one. Any other character is escaped
where it means something in expressions. Here stand also the syntax and the meaning of as much of
regular expressions as patterns are made of.
-/

namespace PromptRegistry.Search

-- ---------------------------------------------------------------------------
-- Expressions
-- ---------------------------------------------------------------------------

inductive Atom where
  | any
  | char (c : Char)
deriving DecidableEq, Repr

/-- A part of an expression: an end of the text, one character, or any number of them. -/
inductive Part where
  | start
  | stop
  | one (a : Atom)
  | many (a : Atom)
deriving DecidableEq, Repr

structure Expression where
  /-- A character takes all that are the same under simple case folding. -/
  ignoreCase : Bool
  /-- Any character is taken to be any, a line feed too. -/
  dotAll : Bool
  parts : List Part
deriving DecidableEq, Repr

namespace Expression

def takes (e : Expression) : Atom → Char → Bool
  | .any, d => e.dotAll || d ≠ '\n'
  | .char c, d => if e.ignoreCase then Text.sameFolded c d else c == d

/-- The parts match at a place in a text, given as what stands before it and what comes after. -/
inductive Matches (takes : Atom → Char → Bool) : List Part → List Char → List Char → Prop
  | done : Matches takes [] before after
  | start (h : Matches takes ps [] after) : Matches takes (.start :: ps) [] after
  | stop (h : Matches takes ps before []) : Matches takes (.stop :: ps) before []
  | one (hc : takes a c = true) (h : Matches takes ps (before ++ [c]) after) :
    Matches takes (.one a :: ps) before (c :: after)
  | none (h : Matches takes ps before after) : Matches takes (.many a :: ps) before after
  | more (hc : takes a c = true) (h : Matches takes (.many a :: ps) (before ++ [c]) after) :
    Matches takes (.many a :: ps) before (c :: after)

def Finds (e : Expression) (text : String) : Prop :=
  ∃ before after, text.toList = before ++ after ∧ Matches e.takes e.parts before after

-- ---------------------------------------------------------------------------
-- The text of an expression
-- ---------------------------------------------------------------------------

def isMeta (c : Char) : Bool := "\\.+*?()|[]\x7b\x7d^$#&-~".toList.contains c

def escape (c : Char) : List Char := if isMeta c then ['\\', c] else [c]

inductive Sign where
  | start
  | stop
  | star
  | atom (a : Atom)
deriving DecidableEq, Repr

def sign? (c : Char) : Option Sign :=
  if c = '^' then some .start
  else if c = '$' then some .stop
  else if c = '*' then some .star
  else if c = '.' then some (.atom .any)
  else if isMeta c then none
  else some (.atom (.char c))

def readSigns : List Char → Option (List Sign)
  | [] => some []
  | '\\' :: c :: cs => if isMeta c then (readSigns cs).map (.atom (.char c) :: ·) else none
  | c :: cs => do return (← sign? c) :: (← readSigns cs)

/-- Reads parts. A star belongs to the atom before it. -/
def readParts : List Sign → Option (List Part)
  | [] => some []
  | .start :: signs => (readParts signs).map (.start :: ·)
  | .stop :: signs => (readParts signs).map (.stop :: ·)
  | .star :: _ => none
  | .atom a :: .star :: signs => (readParts signs).map (.many a :: ·)
  | .atom a :: signs => (readParts signs).map (.one a :: ·)

/-- Reads flags, each of them once and one at least, and leaves what follows them. -/
def readFlags (e : Expression) : List Char → Option (Expression × List Char)
  | 'i' :: cs => if e.ignoreCase then none else readFlags { e with ignoreCase := true } cs
  | 's' :: cs => if e.dotAll then none else readFlags { e with dotAll := true } cs
  | ')' :: cs => if e.ignoreCase || e.dotAll then some (e, cs) else none
  | _ => none

def readHead : List Char → Option (Expression × List Char)
  | '(' :: '?' :: cs => readFlags ⟨false, false, []⟩ cs
  | cs => some (⟨false, false, []⟩, cs)

def readBody (cs : List Char) : Option (List Part) := do readParts (← readSigns cs)

/-- Reads an expression. Texts with anything else in them than flags in front, ends of the text,
characters and stars are not read here. -/
def read? (text : String) : Option Expression := do
  let (e, cs) ← readHead text.toList
  return { e with parts := ← readBody cs }

end Expression

-- ---------------------------------------------------------------------------
-- Matchers
-- ---------------------------------------------------------------------------

/-- A matcher makes a test of the text of an expression, unless it refuses it. -/
structure Matcher where
  compile : String → Option (String → Bool)

/-- What a matcher of regular expressions promises. A test that is made of an expression tells
whether the expression matches somewhere in a text. -/
def Matcher.Documented (m : Matcher) : Prop :=
  ∀ source e test, Expression.read? source = some e → m.compile source = some test →
    ∀ text, test text = true ↔ e.Finds text

def Wildcard.source : Wildcard → List Char
  | .anyRun => ['.', '*']
  | .anyOne => ['.']
  | .char c => Expression.escape c

def expressionOf (ignoreCase : Bool) (pattern : String) : String :=
  String.ofList ((if ignoreCase then "(?is)^" else "(?s)^").toList ++
    ((Wildcard.ofString pattern).flatMap Wildcard.source ++ ['$']))

structure BuiltCondition where
  condition : Condition
  test? : Option (String → Bool)

def Condition.build? (m : Matcher) (c : Condition) : Option BuiltCondition :=
  match c.comparator with
  | .like => (m.compile (expressionOf false c.value)).map fun test => ⟨c, some test⟩
  | .ilike => (m.compile (expressionOf true c.value)).map fun test => ⟨c, some test⟩
  | .equal | .unequal => some ⟨c, none⟩

def BuiltCondition.holds (b : BuiltCondition) (p : Prompt) : Bool :=
  match b.condition.subject.of? p with
  | none => false
  | some text =>
    match b.condition.comparator, b.test? with
    | .equal, _ => text == b.condition.value
    | .unequal, _ => text != b.condition.value
    | _, some test => test text
    | _, none => false

end PromptRegistry.Search
