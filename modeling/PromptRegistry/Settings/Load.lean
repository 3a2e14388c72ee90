import PromptRegistry.Json.Decode
import PromptRegistry.Settings.EnvironmentFile
import PromptRegistry.Settings.Toml

/-!
# Loading settings

Settings are loaded from a file of defaults, then a file for the place at hand, then the
environment. A file may be missing.
-/

namespace PromptRegistry.Settings

structure Surroundings where
  file? : String → Option String
  environment : Environment

/-- The files of settings without their endings, the weakest first. -/
def fileNames : List String := ["config/default", "config/local"]

inductive FileForm where
  | toml
  | json
deriving DecidableEq, Repr

namespace FileForm

def all : List FileForm := [.toml, .json]

def ending : FileForm → String
  | .toml => ".toml"
  | .json => ".json"

def parse? (text : String) : FileForm → Option (List (String × Value))
  | .toml => Toml.parse? text
  | .json =>
    match Json.Decode.runString Json.Decode.json text with
    | .ok (.object ms) => some (Value.ofMembers ms)
    | _ => none

end FileForm

def filePaths : List String :=
  fileNames.flatMap fun name => name :: FileForm.all.map fun form => name ++ form.ending

/-- The layer of a file, which is empty where there is none. A file that has the bare name has no
form: it is passed over, and hides those with endings. -/
def fileLayer? (around : Surroundings) (name : String) : Option (List (String × Value)) :=
  let found := FileForm.all.findSome? fun form =>
    if (around.file? name).isSome then none
    else (around.file? (name ++ form.ending)).map (form, ·)
  match found with
  | some (form, text) => form.parse? text
  | none => some []

def load? (around : Surroundings) : Option Settings := do
  let layers ← fileNames.mapM (fileLayer? around)
  let tree := (layers ++ [around.environment.layer]).foldl Value.layOver (.table [])
  layerReading.settings tree

def environmentFile : String := ".env"

def Surroundings.prepared (around : Surroundings) : Surroundings :=
  match around.file? environmentFile with
  | some text => { around with environment := EnvironmentFile.addTo around.environment text }
  | none => around

end PromptRegistry.Settings
