import PromptRegistry.Json.Decode
import PromptRegistry.Json.Printer
import PromptRegistry.Prompt

/-!
# Documents

The JSON form of templates, versions and prompts. Fields that are empty or missing are left out
of what is written, and filled in on reading. A text template is a string, a chat an array; which
of the two stands there is told by the value.
-/

namespace PromptRegistry

open Json (Decode Fault)

namespace Message

def toJson (m : Message) : Json :=
  .object [("role", .string m.role), ("content", .string m.content)]

structure Fields where
  role : Option String := none
  content : Option String := none

def record : Decode.Record Fields where
  fields := ["role", "content"]
  put st name room d :=
    match name with
    | "role" => some ((Decode.string room d).map fun v => { st with role := some v })
    | "content" => some ((Decode.string room d).map fun v => { st with content := some v })
    | _ => none

def decode : Decode Message :=
  Decode.record record {} fun st => do some ⟨← st.role, ← st.content⟩

end Message

namespace Template

def toJson : Template → Json
  | .text content => .string content
  | .chat messages => .array (messages.map (·.toJson))

/-- Reads a template. The value as a whole comes first; then its shape must fit. -/
def decode : Decode Template := fun room d => do
  let _ ← Decode.json room d
  match d with
  | .string (some content) => .ok (.text content)
  | .array items _ =>
    match Decode.items (Message.decode Decode.greatestDepth) [] items with
    | .ok messages => .ok (.chat messages)
    | .error _ => .error .mismatched
  | _ => .error .mismatched

end Template

namespace Formatted

def toJson : Formatted → Json
  | .text content => .string content
  | .chat messages => .array (messages.map (·.toJson))

def decode : Decode Formatted := fun room d =>
  (Template.decode room d).map fun
    | .text content => .text content
    | .chat messages => .chat messages

end Formatted

/-- A field for a dictionary that is left out when it is empty. -/
def Json.optionalDict (name : String) (d : Dict β) (value : β → Json) : List (String × Json) :=
  if d.isEmpty then [] else [(name, .object (d.entries.map fun e => (e.1, value e.2)))]

def Json.uint32 (n : UInt32) : Json := .nat n.toNat

def Timestamp.decode : Decode Timestamp := Decode.checked Timestamp.ofString?

namespace Version

def toJson (v : Version) : Json :=
  .object <|
    [("name", .string v.name), ("version", .uint32 v.number), ("template", v.template.toJson),
      ("variables", .strings v.variableNames)] ++
    Json.optional "response_format" v.responseFormat ++
    Json.optional "commit_message" (v.commitMessage.map .string) ++
    Json.optionalDict "tags" v.tags .string ++
    [("created_at", .string v.createdAt.render)]

structure Fields where
  name : Option String := none
  number : Option UInt32 := none
  template : Option Template := none
  variableNames : Option (List String) := none
  responseFormat : Option Json := none
  commitMessage : Option String := none
  tags : Dict String := ∅
  createdAt : Option Timestamp := none

def record : Decode.Record Fields where
  fields := ["name", "version", "template", "variables", "response_format", "commit_message",
    "tags", "created_at"]
  put st name room d :=
    match name with
    | "name" => some ((Decode.string room d).map fun v => { st with name := some v })
    | "version" => some ((Decode.uint32 room d).map fun v => { st with number := some v })
    | "template" => some ((Template.decode room d).map fun v => { st with template := some v })
    | "variables" =>
      some ((Decode.list Decode.string room d).map fun v => { st with variableNames := some v })
    | "response_format" =>
      some ((Decode.nullable Decode.json room d).map fun v => { st with responseFormat := v })
    | "commit_message" =>
      some ((Decode.nullable Decode.string room d).map fun v => { st with commitMessage := v })
    | "tags" => some ((Decode.dict Decode.string room d).map fun v => { st with tags := v })
    | "created_at" =>
      some ((Timestamp.decode room d).map fun v => { st with createdAt := some v })
    | _ => none

/-- Reads a version. Its name need not be a valid one, nor its variables those of the
template. -/
def decode : Decode Version :=
  Decode.record record {} fun st => do
    some { name := ← st.name, number := ← st.number, template := ← st.template,
           variableNames := ← st.variableNames, responseFormat := st.responseFormat,
           commitMessage := st.commitMessage, tags := st.tags, createdAt := ← st.createdAt }

end Version

def PromptName.decode : Decode PromptName :=
  Decode.checked fun s => (PromptName.ofString s).toOption

namespace Prompt

def toJson (p : Prompt) : Json :=
  .object <|
    [("name", .string p.name.text)] ++
    Json.optional "description" (p.description.map .string) ++
    Json.optionalDict "tags" p.tags .string ++
    Json.optionalDict "aliases" p.aliases .uint32 ++
    [("versions", .array (p.versions.map (·.toJson))), ("last_version", .uint32 p.lastVersion),
      ("created_at", .string p.createdAt.render), ("updated_at", .string p.updatedAt.render)]

structure Fields where
  name : Option PromptName := none
  description : Option String := none
  tags : Dict String := ∅
  aliases : Dict UInt32 := ∅
  versions : List Version := []
  lastVersion : UInt32 := 0
  createdAt : Option Timestamp := none
  updatedAt : Option Timestamp := none

def record : Decode.Record Fields where
  fields := ["name", "description", "tags", "aliases", "versions", "last_version", "created_at",
    "updated_at"]
  put st name room d :=
    match name with
    | "name" => some ((PromptName.decode room d).map fun v => { st with name := some v })
    | "description" =>
      some ((Decode.nullable Decode.string room d).map fun v => { st with description := v })
    | "tags" => some ((Decode.dict Decode.string room d).map fun v => { st with tags := v })
    | "aliases" => some ((Decode.dict Decode.uint32 room d).map fun v => { st with aliases := v })
    | "versions" =>
      some ((Decode.list Version.decode room d).map fun v => { st with versions := v })
    | "last_version" =>
      some ((Decode.uint32 room d).map fun v => { st with lastVersion := v })
    | "created_at" =>
      some ((Timestamp.decode room d).map fun v => { st with createdAt := some v })
    | "updated_at" =>
      some ((Timestamp.decode room d).map fun v => { st with updatedAt := some v })
    | _ => none

def decode : Decode Prompt :=
  Decode.record record {} fun st => do
    some { name := ← st.name, description := st.description, tags := st.tags,
           aliases := st.aliases, versions := st.versions, lastVersion := st.lastVersion,
           createdAt := ← st.createdAt, updatedAt := ← st.updatedAt }

end Prompt

end PromptRegistry
