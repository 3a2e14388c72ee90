import PromptRegistry.Json.Printer
import PromptRegistry.Text.Ascii

/-!
# Requests and responses
-/

namespace PromptRegistry.Http

/-- What a request asks for. Any other word is a method too, one that nothing answers to. -/
inductive Method where
  | get
  | head
  | post
  | patch
  | put
  | delete
  | other (word : String)
deriving DecidableEq, Repr

namespace Method

def ofString (word : String) : Method :=
  match word with
  | "GET" => .get
  | "HEAD" => .head
  | "POST" => .post
  | "PATCH" => .patch
  | "PUT" => .put
  | "DELETE" => .delete
  | word => .other word

def word : Method → String
  | .get => "GET"
  | .head => "HEAD"
  | .post => "POST"
  | .patch => "PATCH"
  | .put => "PUT"
  | .delete => "DELETE"
  | .other word => word

/-- The methods that something can answer to, in the order in which they are listed. -/
def known : List Method := [.get, .head, .post, .patch, .put, .delete]

end Method

/-- Headers by their names in lower case. -/
abbrev Headers := List (String × String)

namespace Headers

def ofList (hs : List (String × String)) : Headers :=
  hs.map fun h => (Text.lowerAsciiText h.1, h.2)

def first? (hs : Headers) (name : String) : Option String :=
  (hs.find? fun h => h.1 = name).map (·.2)

/-- The headers with those of one name together, in the order in which the names first occur. -/
def grouped (hs : Headers) : Headers :=
  (hs.map (·.1)).eraseDups.flatMap fun name => hs.filter fun h => h.1 = name

end Headers

def isPlain (c : Char) : Bool := (' ' ≤ c && c ≤ '~') || c = '\t'

def plain? (value : String) : Option String := if value.toList.all isPlain then some value else none

structure Target where
  path : List Char
  query : Option (List Char)

namespace Target

/-- Reads a target. What stands behind a number sign is not part of it. -/
def ofString (target : String) : Target :=
  let cs := target.toList.takeWhile (· ≠ '#')
  { path := cs.takeWhile (· ≠ '?')
    query :=
      match cs.dropWhile (· ≠ '?') with
      | _ :: query => some query
      | [] => none }

def render (t : Target) : String :=
  String.ofList <| t.path ++
    match t.query with
    | some query => '?' :: query
    | none => []

end Target

structure Request where
  method : Method
  target : Target
  headers : Headers
  body : List UInt8

inductive Body where
  | empty
  | json (v : Json)
  | text (s : String)

structure Response where
  status : Nat
  headers : Headers
  body : Body

namespace Response

def bare (status : Nat) : Response := ⟨status, [], .empty⟩

def json (status : Nat) (v : Json) : Response :=
  ⟨status, [("content-type", "application/json")], .json v⟩

def text (status : Nat) (s : String) : Response :=
  ⟨status, [("content-type", "text/plain; charset=utf-8")], .text s⟩

def setHeader (name value : String) (r : Response) : Response :=
  { r with headers := r.headers.filter (fun h => h.1 ≠ name) ++ [(name, value)] }

def withoutBody (r : Response) : Response := { r with body := .empty }

end Response

end PromptRegistry.Http
