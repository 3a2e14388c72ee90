import PromptRegistry.Text.Alphanumeric
import PromptRegistry.Text.Ascii
import PromptRegistry.Text.Blank
import PromptRegistry.Text.Quoted

/-!
# Tokens of a filter

Words, quoted values, keys between backticks and the three marks `.`, `=` and `!=`. Blanks
separate tokens and are dropped.
-/

namespace PromptRegistry.Search

inductive Token where
  | word (text : String)
  | quoted (text : String)
  | backticked (text : String)
  | dot
  | equal
  | unequal
deriving DecidableEq, Repr

def Token.describe : Token → String
  | .word s => "Word(" ++ Text.Quoted.quote s ++ ")"
  | .quoted s => "Quoted(" ++ Text.Quoted.quote s ++ ")"
  | .backticked s => "Backticked(" ++ Text.Quoted.quote s ++ ")"
  | .dot => "Dot"
  | .equal => "Eq"
  | .unequal => "Ne"

def describeNext : Option Token → String
  | none => "None"
  | some t => "Some(" ++ t.describe ++ ")"

inductive FilterError where
  | unterminated (quote : Char)
  | loneBang
  | unexpectedChar (c : Char)
  | expectedAnd (found : Token)
  | expectedComparator (found : Option Token)
  | expectedValue (found : Option Token)
  | expectedAttribute (found : Option Token)
  | expectedDot
  | incompleteKey
  | missingKey
deriving DecidableEq, Repr

def FilterError.message : FilterError → String
  | .unterminated q => "unterminated " ++ String.singleton q ++ " quote"
  | .loneBang => "expected '=' after '!'"
  | .unexpectedChar c => "unexpected character '" ++ String.singleton c ++ "'"
  | .expectedAnd t => "expected AND between clauses, found " ++ t.describe
  | .expectedComparator t =>
    "expected comparator (=, !=, LIKE, ILIKE), found " ++ describeNext t
  | .expectedValue t => "expected quoted string value, found " ++ describeNext t
  | .expectedAttribute t => "expected 'name' or 'tags.<key>', found " ++ describeNext t
  | .expectedDot => "expected '.' after 'tags'"
  | .incompleteKey => "incomplete tag key"
  | .missingKey => "missing tag key"

namespace Token

def isWordChar (c : Char) : Bool := Text.isAlphanumeric c || c = '_' || c = '-'

def isQuote (c : Char) : Bool := c = '\'' || c = '"' || c = '\x60'

def ofQuote (quote : Char) (text : List Char) : Token :=
  if quote = '\x60' then .backticked (String.ofList text) else .quoted (String.ofList text)

def scan (cs : List Char) : Except FilterError (List Token) :=
  match cs with
  | [] => .ok []
  | c :: cs =>
    if Text.isBlank c then scan cs
    else if isQuote c then
      match _closed : cs.dropWhile (· ≠ c) with
      | [] => .error (.unterminated c)
      | _ :: rest => (scan rest).map (ofQuote c (cs.takeWhile (· ≠ c)) :: ·)
    else if c = '.' then (scan cs).map (.dot :: ·)
    else if c = '=' then (scan cs).map (.equal :: ·)
    else if c = '!' then
      match cs with
      | '=' :: rest => (scan rest).map (.unequal :: ·)
      | _ => .error .loneBang
    else if isWordChar c then
      (scan (cs.dropWhile isWordChar)).map
        (.word (String.ofList (c :: cs.takeWhile isWordChar)) :: ·)
    else .error (.unexpectedChar c)
termination_by cs.length
decreasing_by
  all_goals simp only [List.length_cons]
  · omega
  · have := (List.dropWhile_sublist (· ≠ c) (l := cs)).length_le
    rw [_closed, List.length_cons] at this
    omega
  · omega
  · omega
  · omega
  · have := (List.dropWhile_sublist isWordChar (l := cs)).length_le
    omega

end Token

end PromptRegistry.Search
