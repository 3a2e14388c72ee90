import PromptRegistry.Text.CaseFolding

/-!
# Wildcards

A pattern is matched against a whole text: `%` takes any run of characters, `_` takes one, and
any other character takes one that is the same.
-/

namespace PromptRegistry.Search

inductive Wildcard where
  | anyRun
  | anyOne
  | char (c : Char)
deriving DecidableEq, Repr

namespace Wildcard

def ofChar (c : Char) : Wildcard :=
  if c = '%' then .anyRun else if c = '_' then .anyOne else .char c

def ofString (pattern : String) : List Wildcard := pattern.toList.map ofChar

/-- For every end piece of a list, whether it holds a `true`. -/
def anyFrom : List Bool → List Bool
  | [] => []
  | b :: bs =>
    let rest := anyFrom bs
    (b || rest.headD false) :: rest

/-- For every end piece of a text, the whole text first and the empty one last, whether the
pattern matches it. -/
def matchEnds (same : Char → Char → Bool) : List Wildcard → List Char → List Bool
  | [], text => text.map (fun _ => false) ++ [true]
  | .anyRun :: pattern, text => anyFrom (matchEnds same pattern text)
  | .anyOne :: pattern, text => (matchEnds same pattern text).drop 1 ++ [false]
  | .char c :: pattern, text =>
    List.zipWith (fun d rest => same c d && rest) text ((matchEnds same pattern text).drop 1) ++
      [false]

def isMatch (same : Char → Char → Bool) (pattern : List Wildcard) (text : List Char) : Bool :=
  (matchEnds same pattern text).headD false

end Wildcard

def isLike (pattern text : String) : Bool :=
  Wildcard.isMatch (· == ·) (Wildcard.ofString pattern) text.toList

def isLikeFolded (pattern text : String) : Bool :=
  Wildcard.isMatch Text.sameFolded (Wildcard.ofString pattern) text.toList

end PromptRegistry.Search
