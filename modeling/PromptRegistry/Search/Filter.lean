import PromptRegistry.Prompt
import PromptRegistry.Search.Token
import PromptRegistry.Search.Wildcard

/-!
# Filters

A filter is a list of conditions that a prompt must all satisfy:

    filter     := clause ( AND clause )*
    clause     := attribute comparator value
    attribute  := name | tags . key
    comparator := = | != | LIKE | ILIKE

Keywords may have any case. A text of blanks is the filter without conditions.
-/

namespace PromptRegistry.Search

inductive Attribute where
  | name
  | tag (key : String)
deriving DecidableEq, Repr

inductive Comparator where
  | equal
  | unequal
  | like
  | ilike
deriving DecidableEq, Repr

structure Condition where
  subject : Attribute
  comparator : Comparator
  value : String
deriving DecidableEq, Repr

def Attribute.of? (p : Prompt) : Attribute → Option String
  | .name => some p.name.text
  | .tag key => p.tags.get? key

def Comparator.test (comparator : Comparator) (text value : String) : Bool :=
  match comparator with
  | .equal => text == value
  | .unequal => text != value
  | .like => isLike value text
  | .ilike => isLikeFolded value text

/-- A prompt satisfies a condition. One without the attribute satisfies none. -/
def Condition.holds (c : Condition) (p : Prompt) : Bool :=
  match c.subject.of? p with
  | some text => c.comparator.test text c.value
  | none => false

abbrev Filter := List Condition

namespace Filter

def holds (f : Filter) (p : Prompt) : Bool := f.all (·.holds p)

def isKeyword (keyword word : String) : Bool := Text.sameIgnoringCase word keyword

def readKeyWords (key : String) : List Token → Except FilterError (String × List Token)
  | .dot :: .word part :: ts => readKeyWords (key ++ "." ++ part) ts
  | .dot :: _ => .error .incompleteKey
  | ts => .ok (key, ts)

def readKey : List Token → Except FilterError (String × List Token)
  | .backticked key :: ts => if key.isEmpty then .error .missingKey else .ok (key, ts)
  | .word key :: ts => readKeyWords key ts
  | _ => .error .missingKey

def readAttribute : List Token → Except FilterError (Attribute × List Token)
  | .word w :: ts =>
    if isKeyword "name" w then .ok (.name, ts)
    else if isKeyword "tags" w || isKeyword "tag" w then
      match ts with
      | .dot :: ts => (readKey ts).map fun (key, ts) => (.tag key, ts)
      | _ => .error .expectedDot
    else .error (.expectedAttribute (some (.word w)))
  | ts => .error (.expectedAttribute ts.head?)

def readComparator : List Token → Except FilterError (Comparator × List Token)
  | .equal :: ts => .ok (.equal, ts)
  | .unequal :: ts => .ok (.unequal, ts)
  | .word w :: ts =>
    if isKeyword "like" w then .ok (.like, ts)
    else if isKeyword "ilike" w then .ok (.ilike, ts)
    else .error (.expectedComparator (some (.word w)))
  | ts => .error (.expectedComparator ts.head?)

def readValue : List Token → Except FilterError (String × List Token)
  | .quoted value :: ts => .ok (value, ts)
  | ts => .error (.expectedValue ts.head?)

def readClause (ts : List Token) : Except FilterError (Condition × List Token) := do
  let (subject, ts) ← readAttribute ts
  let (comparator, ts) ← readComparator ts
  let (value, ts) ← readValue ts
  .ok (⟨subject, comparator, value⟩, ts)

theorem length_readKeyWords {key : String} {ts rest : List Token} {k : String}
    (h : readKeyWords key ts = .ok (k, rest)) : rest.length ≤ ts.length := by
  fun_induction readKeyWords key ts with
  | case1 key part ts ih => have := ih h; simp only [List.length_cons]; omega
  | case2 => cases h
  | case3 => cases h; exact Nat.le_refl _

theorem length_readKey {ts rest : List Token} {k : String} (h : readKey ts = .ok (k, rest)) :
    rest.length < ts.length := by
  unfold readKey at h
  split at h
  · split at h
    · cases h
    · cases h; simp
  · have := length_readKeyWords h
    simp only [List.length_cons]; omega
  · cases h

theorem length_readAttribute {ts rest : List Token} {a : Attribute}
    (h : readAttribute ts = .ok (a, rest)) : rest.length < ts.length := by
  unfold readAttribute at h
  split at h
  · split at h
    · cases h; simp
    · split at h
      · split at h
        · next ts =>
          cases hk : readKey ts with
          | error e => rw [hk] at h; cases h
          | ok kr =>
            rw [hk] at h
            cases h
            have : kr.2.length < ts.length := length_readKey hk
            simp only [List.length_cons]; omega
        · cases h
      · cases h
  · cases h

theorem length_readComparator {ts rest : List Token} {c : Comparator}
    (h : readComparator ts = .ok (c, rest)) : rest.length < ts.length := by
  unfold readComparator at h
  split at h
  · cases h; simp
  · cases h; simp
  · split at h
    · cases h; simp
    · split at h
      · cases h; simp
      · cases h
  · cases h

theorem length_readValue {ts rest : List Token} {v : String}
    (h : readValue ts = .ok (v, rest)) : rest.length < ts.length := by
  unfold readValue at h
  split at h
  · cases h; simp
  · cases h

theorem length_readClause {ts rest : List Token} {c : Condition}
    (h : readClause ts = .ok (c, rest)) : rest.length < ts.length := by
  unfold readClause at h
  cases h₁ : readAttribute ts with
  | error e => rw [h₁] at h; cases h
  | ok a =>
    rw [h₁] at h
    obtain ⟨a, ts₁⟩ := a
    cases h₂ : readComparator ts₁ with
    | error e => simp only [bind, Except.bind, h₂] at h; cases h
    | ok b =>
      obtain ⟨b, ts₂⟩ := b
      cases h₃ : readValue ts₂ with
      | error e => simp only [bind, Except.bind, h₂, h₃] at h; cases h
      | ok v =>
        obtain ⟨v, ts₃⟩ := v
        simp only [bind, Except.bind, h₂, h₃] at h
        cases h
        have := length_readAttribute h₁
        have := length_readComparator h₂
        have := length_readValue h₃
        omega

def readClauses (ts : List Token) : Except FilterError Filter :=
  match _first : readClause ts with
  | .error e => .error e
  | .ok (c, []) => .ok [c]
  | .ok (c, .word w :: rest) =>
    if isKeyword "and" w then (readClauses rest).map (c :: ·)
    else .error (.expectedAnd (.word w))
  | .ok (_, t :: _) => .error (.expectedAnd t)
termination_by ts.length
decreasing_by
  have := length_readClause _first
  simp only [List.length_cons] at this
  omega

def ofTokens : List Token → Except FilterError Filter
  | [] => .ok []
  | ts => readClauses ts

def parse (text : String) : Except FilterError Filter := do
  ofTokens (← Token.scan text.toList)

end Filter

end PromptRegistry.Search
