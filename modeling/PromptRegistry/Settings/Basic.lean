import PromptRegistry.Failure
import PromptRegistry.Text.LowerCase

/-!
# Settings

What can be set from outside: where the service listens, how it logs, where prompts are kept and
how long the pages of a search are.
-/

namespace PromptRegistry

namespace Settings

structure Server where
  host : String := "0.0.0.0"
  port : UInt16 := 8080
deriving DecidableEq

inductive LogFormat where
  | pretty
  | json
deriving DecidableEq, Repr

structure Logging where
  level : String := "info"
  format : LogFormat := .pretty
deriving DecidableEq

/-- The connections to a database; times are in seconds. -/
structure Pool where
  url : String := "postgres://localhost/prompt_registry"
  maxConnections : UInt32 := 10
  minConnections : UInt32 := 1
  connectTimeout : UInt64 := 30
  idleTimeout : UInt64 := 600
deriving DecidableEq

structure Storage where
  backend : String := "memory"
  table : String := "prompts"
  pool : Pool := {}
deriving DecidableEq

structure Search where
  default : UInt64 := 100
  limit : UInt64 := 1000
deriving DecidableEq

end Settings

structure Settings where
  server : Settings.Server := {}
  logging : Settings.Logging := {}
  storage : Settings.Storage := {}
  search : Settings.Search := {}
deriving DecidableEq

inductive Backend where
  | memory
  | postgres
deriving DecidableEq, Repr

/-- The kind with a name, in any case and with blanks around it if need be. -/
def Backend.ofString (name : String) : Except Misconfiguration Backend :=
  match Text.lowerCase (Text.trimmed name) with
  | "memory" | "inmemory" | "in-memory" | "in_memory" => .ok .memory
  | "postgres" | "postgresql" | "pg" => .ok .postgres
  | name => .error (.backend name)

namespace Settings

inductive StorageChoice where
  | memory
  | postgres (pool : Pool)
deriving DecidableEq

def Storage.choice (s : Storage) : Except Misconfiguration StorageChoice := do
  match ← Backend.ofString s.backend with
  | .memory => return .memory
  | .postgres => return .postgres s.pool

def Search.sizes (s : Search) : Except Misconfiguration Search.PageSizes :=
  if s.limit = 0 ∨ s.default = 0 then .error .zeroPageSize
  else if s.limit < s.default then .error (.pageSizes s.default.toNat s.limit.toNat)
  else .ok ⟨s.default.toNat, s.limit.toNat⟩

def isTableStart (c : Char) : Bool :=
  Text.isAsciiAlphanumeric c && !Text.isAsciiDigit c || c = '_'

/-- The name of a table is a word of at most 63 characters. -/
def checkTable (name : String) : Except Misconfiguration Unit :=
  match name.toList with
  | c :: cs =>
    if isTableStart c && cs.length ≤ 62 && cs.all (fun c => isTableStart c || Text.isAsciiDigit c)
    then .ok ()
    else .error (.table name)
  | [] => .error (.table name)

/-- The storage and the sizes of pages; of two faults that of the storage counts. -/
def plan (s : Settings) :
    Except Misconfiguration (StorageChoice × PromptRegistry.Search.PageSizes) := do
  return (← s.storage.choice, ← s.search.sizes)

end Settings

end PromptRegistry
