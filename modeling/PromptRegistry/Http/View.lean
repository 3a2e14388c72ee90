import PromptRegistry.Document
import PromptRegistry.Registry.Basic

/-!
# Views

The JSON that responses show of prompts, versions and pages.
-/

namespace PromptRegistry

open Json (optional)

def Prompt.view (p : Prompt) : Json :=
  .object <|
    [("name", .string p.name.text)] ++
    optional "description" (p.description.map .string) ++
    [("tags", .ofDict p.tags),
      ("aliases", .object (p.aliases.entries.map fun a => (a.1, .uint32 a.2)))] ++
    optional "latest_version" (p.latest?.map fun v => .uint32 v.number) ++
    [("version_count", .nat p.versions.length),
      ("created_at", .string p.createdAt.renderOffset),
      ("updated_at", .string p.updatedAt.renderOffset)]

def Details.view (d : Details) : Json :=
  let v := d.version
  .object <|
    [("name", .string v.name), ("version", .uint32 v.number), ("uri", .string v.uri.render),
      ("template", v.template.toJson), ("is_text", .bool v.template.isText),
      ("variables", .strings v.variableNames)] ++
    optional "response_format" v.responseFormat ++
    optional "commit_message" (v.commitMessage.map .string) ++
    [("tags", .ofDict v.tags), ("aliases", .strings d.aliases),
      ("created_at", .string v.createdAt.renderOffset)]

def FilledVersion.view (f : FilledVersion) : Json :=
  .object
    [("name", .string f.version.name), ("version", .uint32 f.version.number),
      ("uri", .string f.version.uri.render), ("result", f.formatted.toJson)]

def Search.Page.view (item : α → Json) (page : Search.Page α) : Json :=
  .object <|
    [("items", .array (page.items.map item))] ++
    optional "next_page_token" (page.next.map .string)

namespace Http

def deletedView : Json := .object [("deleted", .bool true)]

def programVersion : String := "0.1.0"

def healthView : Json :=
  .object [("status", .string "healthy"), ("version", .string programVersion)]

def readinessView (elapsed : Nat) (count : Except Failure Nat) : Json :=
  let status :=
    match count with
    | .ok _ => "healthy"
    | .error _ => "unhealthy"
  let found :=
    match count with
    | .ok n => ("prompt_count", .nat n)
    | .error e => ("message", .string e.message)
  let check : Json := .object
    [("name", .string "prompt_storage"), ("status", .string status), found,
      ("latency_ms", .nat elapsed)]
  .object
    [("status", .string status), ("version", .string programVersion),
      ("checks", .array [check]), ("latency_ms", .nat elapsed)]

end Http

end PromptRegistry
