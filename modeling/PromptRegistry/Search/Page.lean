import PromptRegistry.Json.Decode
import PromptRegistry.Json.Printer
import PromptRegistry.Search.Token
import PromptRegistry.Text.Base64Url
import PromptRegistry.Text.Utf8

/-!
# Pages

A long result is handed out in pages. A page that is not the last comes with a token, the place
where the next one begins.
-/

namespace PromptRegistry.Search

inductive SearchError where
  | filter (e : FilterError)
  | orderClause (text : String)
  | pageToken
  | pageSize (size limit : Nat)
deriving DecidableEq, Repr

def SearchError.message : SearchError → String
  | .filter e => "Invalid filter: " ++ e.message
  | .orderClause s => "Invalid order_by clause '" ++ s ++ "'"
  | .pageToken => "Invalid page token"
  | .pageSize size limit =>
    "Invalid max_results " ++ Text.Decimal.render size ++ ": must be between 1 and " ++
      Text.Decimal.render limit

namespace PageToken

def toJson (offset : Nat) : Json := .object [("offset", .nat offset)]

def record : Json.Decode.Record (Option Nat) where
  fields := ["offset"]
  put _ name room d :=
    match name with
    | "offset" => some ((Json.Decode.nat UInt64.size room d).map some)
    | _ => none

def decodeJson : Json.Decode Nat := Json.Decode.record record none id

def encode (offset : Nat) : String :=
  String.ofList (Text.Base64Url.encode (Text.Utf8.encode (toJson offset).render))

def decode (token : String) : Except SearchError Nat :=
  match Text.Base64Url.decode? token.toList with
  | none => .error .pageToken
  | some bytes => (decodeJson.run (Text.Utf8.decode bytes)).mapError fun _ => .pageToken

/-- The offset of a token that may be missing; without one a search begins at the start. -/
def offset : Option String → Except SearchError Nat
  | none => .ok 0
  | some token => if token.isEmpty then .ok 0 else decode token

end PageToken

/-- Some of the items of a result, and the token for those behind them. -/
structure Page (α : Type) where
  items : List α
  next : Option String
deriving Repr

def paginate (items : List α) (offset size : Nat) : Page α :=
  let last := min (offset + size) items.length
  { items := (items.drop offset).take size
    next := if last < items.length then some (PageToken.encode last) else none }

/-- The sizes of pages: the one taken when none is asked for, and the greatest. -/
structure PageSizes where
  default : Nat
  limit : Nat
deriving DecidableEq, Repr

def PageSizes.resolve (sizes : PageSizes) : Option Nat → Except SearchError Nat
  | none => .ok (min sizes.default sizes.limit)
  | some size =>
    if size = 0 ∨ sizes.limit < size then .error (.pageSize size sizes.limit) else .ok size

end PromptRegistry.Search
