import PromptRegistry.Document
import PromptRegistry.Http.MediaType
import PromptRegistry.Http.Problem
import PromptRegistry.Registry.Basic
import PromptRegistry.Text.Percent

/-!
# Inputs

What endpoints read from the bodies and the queries of requests.
-/

namespace PromptRegistry.Http

open Json (Decode Fault)

/-! ## Bodies -/

def decodePromptDraft : Decode Registry.PromptDraft :=
  Decode.record fields (none, none, ∅) fun st => st.1.map fun name => ⟨name, st.2.1, st.2.2⟩
where
  fields : Decode.Record (Option String × Option String × Dict String) :=
    { fields := ["name", "description", "tags"]
      put := fun st name room d =>
        match name with
        | "name" => some ((Decode.string room d).map fun v => (some v, st.2))
        | "description" =>
          some ((Decode.nullable Decode.string room d).map fun v => (st.1, v, st.2.2))
        | "tags" =>
          some ((Decode.dict Decode.string room d).map fun v => (st.1, st.2.1, v))
        | _ => none }

def decodeField (name : String) (decode : Decode α) (build : Option α → Option β)
    (needed : Nat) : Decode β :=
  Decode.record
    { fields := [name]
      put := fun _ field room d =>
        if field = name then some ((decode room d).map some) else none
      needed }
    none build

def decodeDescription : Decode (Option String) :=
  decodeField "description" (Decode.nullable Decode.string) (fun v => some (v.getD none)) 1

def decodeTagValue : Decode String := decodeField "value" Decode.string id 0

def decodeAliasTarget : Decode UInt32 := decodeField "version" Decode.uint32 id 0

structure VersionFields where
  template : Option Template := none
  commitMessage : Option String := none
  tags : Dict String := ∅
  responseFormat : Option Json := none

namespace VersionFields

def record : Decode.Record VersionFields where
  fields := ["template", "commit_message", "tags", "response_format"]
  put st name room d :=
    match name with
    | "template" => some ((Template.decode room d).map fun v => { st with template := some v })
    | "commit_message" =>
      some ((Decode.nullable Decode.string room d).map fun v => { st with commitMessage := v })
    | "tags" => some ((Decode.dict Decode.string room d).map fun v => { st with tags := v })
    | "response_format" =>
      some ((Decode.nullable Decode.json room d).map fun v => { st with responseFormat := v })
    | _ => none

def build (st : VersionFields) : Option NewVersion :=
  st.template.map fun template => ⟨template, st.commitMessage, st.tags, st.responseFormat⟩

end VersionFields

def decodeNewVersion : Decode NewVersion := Decode.record VersionFields.record {} (·.build)

structure RegistrationFields where
  name : Option String := none
  description : Option String := none
  promptTags : Dict String := ∅
  others : List (Option String × Json.Draft) := []

namespace RegistrationFields

def put (st : RegistrationFields) (name : String) (room : Nat) (d : Json.Draft) :
    Option (Except Fault RegistrationFields) :=
  match name with
  | "name" => some ((Decode.string room d).map fun v => { st with name := some v })
  | "description" =>
    some ((Decode.nullable Decode.string room d).map fun v => { st with description := v })
  | "prompt_tags" =>
    some ((Decode.dict Decode.string room d).map fun v => { st with promptTags := v })
  | _ => none

/-- Reads members; those left over must be whole values. -/
def readMembers (room : Nat) (seen : List String) (st : RegistrationFields) :
    List (Option String × Json.Draft) → Except Fault RegistrationFields
  | [] => .ok st
  | (none, _) :: _ => .error .malformed
  | (some name, d) :: ms =>
    if seen.contains name then .error .mismatched
    else
      match st.put name room d with
      | some (.error e) => .error e
      | some (.ok st) => readMembers room (name :: seen) st ms
      | none =>
        match Decode.json room d with
        | .error e => .error e
        | .ok _ => readMembers room seen { st with others := (some name, d) :: st.others } ms

end RegistrationFields

/-- Reads the body of a registration. It is an object that holds the fields of a version among
its own. -/
def decodeRegistration : Decode Registry.Registration
  | 0, .object .. => .error .malformed
  | room + 1, .object ms closed => do
    let st ← RegistrationFields.readMembers room [] {} ms
    if !closed then .error .malformed
    else
      let version ← VersionFields.record.readMembers room [] {} st.others.reverse
      match st.name, version.build with
      | some name, some version => .ok ⟨name, version, st.description, st.promptTags⟩
      | _, _ => .error .mismatched
  | _, .array .. => .error .mismatched
  | _, d => .error d.unexpected

structure FormatInput where
  uri : Option String := none
  values : Dict String := ∅
  allowPartial : Bool := false

def decodeFormatInput : Decode FormatInput :=
  Decode.record fields {} some
where
  fields : Decode.Record FormatInput :=
    { fields := ["uri", "variables", "allow_partial"]
      put := fun st name room d =>
        match name with
        | "uri" => some ((Decode.nullable Decode.string room d).map fun v => { st with uri := v })
        | "variables" =>
          some ((Decode.dict Decode.string room d).map fun v => { st with values := v })
        | "allow_partial" =>
          some ((Decode.bool room d).map fun v => { st with allowPartial := v })
        | _ => none }

def greatestBody : Nat := 2097152

def Request.hasJson (r : Request) : Bool :=
  match (r.headers.first? "content-type").bind plain? with
  | some value => ((MediaType.ofChars? value.toList).map (·.isJson)).getD false
  | none => false

def Request.read (decode : Decode α) (r : Request) : Except Problem α :=
  if !r.hasJson then
    .error (.malformed 415 "Missing Content-Type header. Expected 'application/json'.")
  else if greatestBody < r.body.length then
    .error (.malformed 413 "Failed to read request body: length limit exceeded")
  else
    match decode.run (Text.Utf8.decode r.body) with
    | .ok a => .ok a
    | .error .malformed => .error (.malformed 400 "Invalid JSON syntax: the body is not JSON")
    | .error .mismatched =>
      .error (.malformed 422 "Invalid JSON data: the body does not have the expected fields")

/-! ## Queries -/

/-- The value of a field, which may not come twice. -/
def field? (name : String) (pairs : List (String × String)) : Option (Option String) :=
  match pairs.filter fun pair => pair.1 = name with
  | [] => some none
  | [pair] => some (some pair.2)
  | _ => none

def size? (pairs : List (String × String)) : Option (Option Nat) := do
  match ← field? "max_results" pairs with
  | none => some none
  | some text => (Text.Decimal.readNat? UInt64.size text.toList).map some

def clauses (text : String) : List String :=
  (Text.Percent.splitAt ',' text.toList).map fun c => String.ofList (Text.trim c)

def searchQuery? (pairs : List (String × String)) : Option Registry.Query := do
  let filter ← field? "filter" pairs
  let size ← size? pairs
  let order ← field? "order_by" pairs
  let token ← field? "page_token" pairs
  some ⟨filter, size, (order.map clauses).getD [], token⟩

/-- Reads the query of a listing of versions, which may hold nothing else. -/
def listingQuery? (pairs : List (String × String)) : Option (Option Nat × Option String) := do
  if pairs.any fun pair => pair.1 ≠ "max_results" && pair.1 ≠ "page_token" then none
  some (← size? pairs, ← field? "page_token" pairs)

def addressQuery? (pairs : List (String × String)) : Option String := do
  ← field? "uri" pairs

def Request.readQuery (decode : List (String × String) → Option α) (r : Request) :
    Except Problem α :=
  match decode (Text.Percent.queryPairs (String.ofList (r.target.query.getD []))) with
  | some a => .ok a
  | none => .error (.malformed 400 "Invalid query string: the fields are not as expected")

end PromptRegistry.Http
