import PromptRegistry.Json.Basic
import PromptRegistry.Settings.Basic

/-!
# Reading settings

Settings are read alike from values of different forms; what differs is what passes for a text
or a number there. A part that is missing keeps its default, and one that does not fit is an
error.
-/

namespace PromptRegistry.Settings

/-- What passes for what among the values of a form. -/
structure Reading (ν : Type) where
  text : ν → Option String
  nat : Nat → ν → Option Nat
  format : ν → Option LogFormat
  /-- The values of fields, where those that are missing are `none`. -/
  fields : List String → ν → Option (List (Option ν))

namespace Reading

def field (read : ν → Option α) (default : α) : Option (Option ν) → Option α
  | some (some v) => read v
  | _ => some default

def uint16 (r : Reading ν) (v : ν) : Option UInt16 := (r.nat UInt16.size v).map UInt16.ofNat

def uint32 (r : Reading ν) (v : ν) : Option UInt32 := (r.nat UInt32.size v).map UInt32.ofNat

def uint64 (r : Reading ν) (v : ν) : Option UInt64 := (r.nat UInt64.size v).map UInt64.ofNat

def server (r : Reading ν) (v : ν) : Option Server := do
  let fs ← r.fields ["host", "port"] v
  let base : Server := {}
  some
    { host := ← field r.text base.host fs[0]?
      port := ← field r.uint16 base.port fs[1]? }

def logging (r : Reading ν) (v : ν) : Option Logging := do
  let fs ← r.fields ["level", "format"] v
  let base : Logging := {}
  some
    { level := ← field r.text base.level fs[0]?
      format := ← field r.format base.format fs[1]? }

def pool (r : Reading ν) (v : ν) : Option Pool := do
  let fs ← r.fields
    ["url", "max_connections", "min_connections", "connect_timeout_secs", "idle_timeout_secs"] v
  let base : Pool := {}
  some
    { url := ← field r.text base.url fs[0]?
      maxConnections := ← field r.uint32 base.maxConnections fs[1]?
      minConnections := ← field r.uint32 base.minConnections fs[2]?
      connectTimeout := ← field r.uint64 base.connectTimeout fs[3]?
      idleTimeout := ← field r.uint64 base.idleTimeout fs[4]? }

def storage (r : Reading ν) (v : ν) : Option Storage := do
  let fs ← r.fields ["backend", "table", "postgres"] v
  let base : Storage := {}
  some
    { backend := ← field r.text base.backend fs[0]?
      table := ← field r.text base.table fs[1]?
      pool := ← field r.pool base.pool fs[2]? }

def search (r : Reading ν) (v : ν) : Option Search := do
  let fs ← r.fields ["default_max_results", "max_results_limit"] v
  let base : Search := {}
  some
    { default := ← field r.uint64 base.default fs[0]?
      limit := ← field r.uint64 base.limit fs[1]? }

def settings (r : Reading ν) (v : ν) : Option Settings := do
  let fs ← r.fields ["server", "logging", "storage", "search"] v
  some
    { server := ← field r.server {} fs[0]?
      logging := ← field r.logging {} fs[1]?
      storage := ← field r.storage {} fs[2]?
      search := ← field r.search {} fs[3]? }

def inOrder (names : List String) (vs : List ν) : List (Option ν) :=
  (vs.take names.length).map some

end Reading

def LogFormat.ofName? : String → Option LogFormat
  | "pretty" => some .pretty
  | "json" => some .json
  | _ => none

/-- JSON values. A record is an object or an array of its fields; a format is its name, or an
object that maps the name to null. -/
def jsonReading : Reading Json where
  text
    | .string s => some s
    | _ => none
  nat bound
    | .number n => n.nat? bound
    | _ => none
  format
    | .string s => LogFormat.ofName? s
    | .object [(name, .null)] => LogFormat.ofName? name
    | _ => none
  fields names
    | .object ms => some (names.map fun name => lookupEntry name ms)
    | .array vs => if names.length < vs.length then none else some (Reading.inOrder names vs)
    | _ => none

end PromptRegistry.Settings
