import PromptRegistry.Search.Page
import PromptRegistry.Template
import PromptRegistry.Uri

/-!
# Failures

Why an operation did not do what it was asked for. The text of a failure is computed from its
cause.
-/

namespace PromptRegistry

inductive Missing where
  | prompt (name : String)
  | version (name : String) (number : UInt32)
  | target (uri : Uri)
  | aliasOf (name aliasName : String)
  | entry (name : PromptName)
deriving DecidableEq

inductive Taken where
  | prompt (name : String)
  | entry (name : PromptName)
deriving DecidableEq

inductive Refusal where
  | rule (v : Violation)
  | template (e : TemplateError)
  | uri (e : UriError)
  | search (e : Search.SearchError)
  | responseFormat
deriving DecidableEq

inductive Misconfiguration where
  | backend (name : String)
  | table (name : String)
  | zeroPageSize
  | pageSizes (default limit : Nat)
  /-- A storage that forgets everything where one is needed that does not. -/
  | notPersistent
deriving DecidableEq

inductive Failure where
  | missing (what : Missing)
  | refused (why : Refusal)
  | taken (what : Taken)
  | misconfigured (why : Misconfiguration)
  | storage (message : String)
  /-- A prompt has given out all numbers. The addition that overflows is caught by nobody, so that
  whoever asked is not answered at all. -/
  | exhausted
deriving DecidableEq

def Missing.message : Missing → String
  | .prompt n => "Prompt '" ++ n ++ "' not found"
  | .version n v =>
    "Version " ++ Text.Decimal.render v.toNat ++ " of prompt '" ++ n ++ "' not found"
  | .target u =>
    "Prompt '" ++ u.name ++ "' has no " ++ u.reference.describe ++ " (" ++ u.render ++ ")"
  | .aliasOf n a => "Alias '" ++ a ++ "' not found for prompt '" ++ n ++ "'"
  | .entry n => "'" ++ n.text ++ "' not found"

def Taken.message : Taken → String
  | .prompt n => "Prompt '" ++ n ++ "' already exists"
  | .entry n => "'" ++ n.text ++ "' already exists"

def Refusal.message : Refusal → String
  | .rule v => v.message
  | .template e => e.message
  | .uri e => e.message
  | .search e => e.message
  | .responseFormat => "response_format must be a JSON object"

def Misconfiguration.message : Misconfiguration → String
  | .backend n => "Unknown storage backend '" ++ n ++ "': expected 'memory' or 'postgres'"
  | .table n => "Invalid storage table name '" ++ n ++ "'"
  | .zeroPageSize => "search page sizes must be positive"
  | .pageSizes d l =>
    "search.default_max_results (" ++ Text.Decimal.render d ++
      ") exceeds search.max_results_limit (" ++ Text.Decimal.render l ++ ")"
  | .notPersistent => "format requires a persistent storage backend (postgres)"

inductive FailureKind where
  | notFound
  | validation
  | configuration
  | conflict
  | internal
  | storage
deriving DecidableEq, Repr

def FailureKind.label : FailureKind → String
  | .notFound => "Not found"
  | .validation => "Validation error"
  | .configuration => "Configuration error"
  | .conflict => "Conflict"
  | .internal => "Internal error"
  | .storage => "Storage error"

namespace Failure

def kind : Failure → FailureKind
  | .missing _ => .notFound
  | .refused _ => .validation
  | .taken _ => .conflict
  | .misconfigured _ => .configuration
  | .storage _ => .storage
  | .exhausted => .internal

def detail : Failure → String
  | .missing w => w.message
  | .refused w => w.message
  | .taken w => w.message
  | .misconfigured w => w.message
  | .storage m => m
  | .exhausted => "attempt to add with overflow"

def message (f : Failure) : String := f.kind.label ++ ": " ++ f.detail

/-- The failure ends everything that waits for a result, up to the answer of a request. -/
def isFatal : Failure → Bool
  | .exhausted => true
  | _ => false

end Failure

end PromptRegistry
