import PromptRegistry.Http.Message
import PromptRegistry.Text.Percent

/-!
# Endpoints

A path names a resource, and a method turns a resource into an endpoint: something that can be
asked of the registry. The variable parts of a path stay escaped until the endpoint is known.
-/

namespace PromptRegistry.Http

inductive Resource where
  | health
  | ready
  | live
  | prompts
  | prompt (name : String)
  | promptTag (name key : String)
  | versions (name : String)
  | version (name version : String)
  | versionTag (name version key : String)
  | versionFormat (name version : String)
  | aliasOf (name aliasName : String)
  | register
  | load
  | format
deriving DecidableEq, Repr

inductive Endpoint where
  | health
  | ready
  | live
  | searchPrompts
  | createPrompt
  | getPrompt (name : String)
  | updatePrompt (name : String)
  | deletePrompt (name : String)
  | setPromptTag (name key : String)
  | deletePromptTag (name key : String)
  | listVersions (name : String)
  | createVersion (name : String)
  | getVersion (name version : String)
  | deleteVersion (name version : String)
  | setVersionTag (name version key : String)
  | deleteVersionTag (name version key : String)
  | formatVersion (name version : String)
  | getAlias (name aliasName : String)
  | setAlias (name aliasName : String)
  | deleteAlias (name aliasName : String)
  | register
  | load
  | format
deriving DecidableEq, Repr

namespace Resource

/-- The resource of the parts of a path behind the common beginning. The last part must not be
empty. -/
def ofParts? : List String → Option Resource
  | ["prompts"] => some .prompts
  | ["prompts", n] => ifNamed n (.prompt n)
  | ["prompts", n, "tags", k] => ifNamed k (.promptTag n k)
  | ["prompts", n, "versions"] => some (.versions n)
  | ["prompts", n, "versions", v] => ifNamed v (.version n v)
  | ["prompts", n, "versions", v, "tags", k] => ifNamed k (.versionTag n v k)
  | ["prompts", n, "versions", v, "format"] => some (.versionFormat n v)
  | ["prompts", n, "aliases", a] => ifNamed a (.aliasOf n a)
  | ["register"] => some .register
  | ["load"] => some .load
  | ["format"] => some .format
  | _ => none
where
  ifNamed (part : String) (r : Resource) : Option Resource := if part.isEmpty then none else some r

def ofPath? (path : List Char) : Option Resource :=
  match (Text.Percent.splitAt '/' path).map String.ofList with
  | ["", "health"] => some .health
  | ["", "ready"] => some .ready
  | ["", "live"] => some .live
  | "" :: "api" :: "v1" :: parts => ofParts? parts
  | _ => none

def pattern : Resource → String
  | .health => "/health"
  | .ready => "/ready"
  | .live => "/live"
  | .prompts => "/api/v1/prompts"
  | .prompt _ => "/api/v1/prompts/" ++ inBraces "name"
  | .promptTag _ _ => "/api/v1/prompts/" ++ inBraces "name" ++ "/tags/" ++ inBraces "key"
  | .versions _ => "/api/v1/prompts/" ++ inBraces "name" ++ "/versions"
  | .version _ _ => "/api/v1/prompts/" ++ inBraces "name" ++ "/versions/" ++ inBraces "version"
  | .versionTag _ _ _ =>
    "/api/v1/prompts/" ++ inBraces "name" ++ "/versions/" ++ inBraces "version" ++ "/tags/" ++
      inBraces "key"
  | .versionFormat _ _ =>
    "/api/v1/prompts/" ++ inBraces "name" ++ "/versions/" ++ inBraces "version" ++ "/format"
  | .aliasOf _ _ => "/api/v1/prompts/" ++ inBraces "name" ++ "/aliases/" ++ inBraces "alias"
  | .register => "/api/v1/register"
  | .load => "/api/v1/load"
  | .format => "/api/v1/format"
where
  inBraces (name : String) : String := "\x7b" ++ name ++ "\x7d"

/-- The endpoint of a method at a resource. Where a resource can be got, its head can be too. -/
def endpoint? : Resource → Method → Option Endpoint
  | .health, .get | .health, .head => some .health
  | .ready, .get | .ready, .head => some .ready
  | .live, .get | .live, .head => some .live
  | .prompts, .get | .prompts, .head => some .searchPrompts
  | .prompts, .post => some .createPrompt
  | .prompt n, .get | .prompt n, .head => some (.getPrompt n)
  | .prompt n, .patch => some (.updatePrompt n)
  | .prompt n, .delete => some (.deletePrompt n)
  | .promptTag n k, .put => some (.setPromptTag n k)
  | .promptTag n k, .delete => some (.deletePromptTag n k)
  | .versions n, .get | .versions n, .head => some (.listVersions n)
  | .versions n, .post => some (.createVersion n)
  | .version n v, .get | .version n v, .head => some (.getVersion n v)
  | .version n v, .delete => some (.deleteVersion n v)
  | .versionTag n v k, .put => some (.setVersionTag n v k)
  | .versionTag n v k, .delete => some (.deleteVersionTag n v k)
  | .versionFormat n v, .post => some (.formatVersion n v)
  | .aliasOf n a, .get | .aliasOf n a, .head => some (.getAlias n a)
  | .aliasOf n a, .put => some (.setAlias n a)
  | .aliasOf n a, .delete => some (.deleteAlias n a)
  | .register, .post => some .register
  | .load, .get | .load, .head => some .load
  | .format, .post => some .format
  | _, _ => none

def methods (r : Resource) : List Method := Method.known.filter fun m => (r.endpoint? m).isSome

end Resource

namespace Endpoint

/-- The text behind a variable part of a path, or the name of the part if its bytes spell no
text. -/
def unescape (name text : String) : Except String String :=
  (Text.Percent.decodeText? text).elim (.error name) .ok

def unescaped : Endpoint → Except String Endpoint
  | .getPrompt n => do return .getPrompt (← unescape "name" n)
  | .updatePrompt n => do return .updatePrompt (← unescape "name" n)
  | .deletePrompt n => do return .deletePrompt (← unescape "name" n)
  | .setPromptTag n k => do return .setPromptTag (← unescape "name" n) (← unescape "key" k)
  | .deletePromptTag n k => do return .deletePromptTag (← unescape "name" n) (← unescape "key" k)
  | .listVersions n => do return .listVersions (← unescape "name" n)
  | .createVersion n => do return .createVersion (← unescape "name" n)
  | .getVersion n v => do return .getVersion (← unescape "name" n) (← unescape "version" v)
  | .deleteVersion n v => do return .deleteVersion (← unescape "name" n) (← unescape "version" v)
  | .setVersionTag n v k => do
    return .setVersionTag (← unescape "name" n) (← unescape "version" v) (← unescape "key" k)
  | .deleteVersionTag n v k => do
    return .deleteVersionTag (← unescape "name" n) (← unescape "version" v) (← unescape "key" k)
  | .formatVersion n v => do return .formatVersion (← unescape "name" n) (← unescape "version" v)
  | .getAlias n a => do return .getAlias (← unescape "name" n) (← unescape "alias" a)
  | .setAlias n a => do return .setAlias (← unescape "name" n) (← unescape "alias" a)
  | .deleteAlias n a => do return .deleteAlias (← unescape "name" n) (← unescape "alias" a)
  | e => .ok e

end Endpoint

end PromptRegistry.Http
