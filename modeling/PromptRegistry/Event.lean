import PromptRegistry.Text.Decimal
import PromptRegistry.Text.Quoted
import PromptRegistry.Uri

/-!
# Events

What the registry reports of its work, one entry of a log for each event.
-/

namespace PromptRegistry

inductive Level where
  | debug
  | info
  | warning
  | error
deriving DecidableEq, Repr

def Level.label : Level → String
  | .debug => "DEBUG"
  | .info => "INFO"
  | .warning => "WARN"
  | .error => "ERROR"

structure RequestSummary where
  method : String
  path : String
  uri : String
  requestId : String
  headers : String
deriving DecidableEq

inductive Event where
  | searching (filter : Option String)
  | searched (matched offset size : Nat)
  | creating (name : String)
  | registering (name : String)
  | getting (name : String)
  | listingVersions (name : String)
  | loading (uri : Uri)
  | formatted (uri : Uri) (allowPartial : Bool)
  | promptTagSet (name tag : String)
  | promptTagAbsent (name tag : String)
  | versionTagSet (name : String) (version : UInt32) (tag : String)
  | promptCreated (name : String)
  | promptUpdated (name : String)
  | promptDeleted (name : String)
  | versionCreated (name : String) (version : UInt32)
  | registered (name : String) (version : UInt32) (newPrompt : Bool)
  | versionDeleted (name : String) (version : UInt32)
  | aliasesLost (name : String) (version : UInt32) (aliases : List String)
  | aliasSet (name aliasName : String) (version : UInt32) (previous : Option UInt32)
  | aliasDeleted (name aliasName : String)
  | serverError (message : String)
  | notReady (message : String)
  | requestReceived (r : RequestSummary)
  | requestCompleted (method path : String) (status : Nat) (requestId : String)
deriving DecidableEq

inductive Event.Field where
  | text (s : String)
  | number (n : Nat)
  | flag (b : Bool)
deriving DecidableEq

namespace Event

def level : Event → Level
  | .searching .. | .searched .. | .creating .. | .registering .. | .getting ..
  | .listingVersions .. | .loading .. | .formatted .. | .promptTagSet .. | .promptTagAbsent ..
  | .versionTagSet .. => .debug
  | .promptCreated .. | .promptUpdated .. | .promptDeleted .. | .versionCreated ..
  | .registered .. | .versionDeleted .. | .aliasSet .. | .aliasDeleted .. | .requestReceived ..
  | .requestCompleted .. => .info
  | .aliasesLost .. | .notReady .. => .warning
  | .serverError .. => .error

def message : Event → String
  | .searching .. => "Searching prompts"
  | .searched .. => "Searched prompts"
  | .creating .. => "Creating prompt"
  | .registering .. => "Registering prompt version"
  | .getting .. => "Getting prompt"
  | .listingVersions .. => "Listing prompt versions"
  | .loading .. => "Loading prompt"
  | .formatted .. => "Prompt formatted"
  | .promptTagSet .. => "Prompt tag set"
  | .promptTagAbsent .. => "Prompt tag not present"
  | .versionTagSet .. => "Version tag set"
  | .promptCreated .. => "Prompt created"
  | .promptUpdated .. => "Prompt updated"
  | .promptDeleted .. => "Prompt deleted"
  | .versionCreated .. => "Prompt version created"
  | .registered .. => "Prompt registered"
  | .versionDeleted .. => "Prompt version deleted"
  | .aliasesLost .. => "Deleted aliases pointing at removed version"
  | .aliasSet .. => "Prompt alias set"
  | .aliasDeleted .. => "Prompt alias deleted"
  | .serverError .. => "Request failed with server error"
  | .notReady .. => "Readiness check failed"
  | .requestReceived .. => "Incoming request"
  | .requestCompleted .. => "Request completed"

def Field.version (n : UInt32) : Field := .number n.toNat

def fields : Event → List (String × Field)
  | .searching filter => [("filter", .text (Text.Quoted.quoteOption filter))]
  | .searched matched offset size =>
    [("matched", .number matched), ("offset", .number offset), ("max_results", .number size)]
  | .creating n | .registering n | .getting n | .listingVersions n | .promptCreated n
  | .promptUpdated n | .promptDeleted n => [("prompt", .text n)]
  | .loading u => [("uri", .text u.render)]
  | .formatted u partly => [("uri", .text u.render), ("allow_partial", .flag partly)]
  | .promptTagSet n tag | .promptTagAbsent n tag => [("prompt", .text n), ("tag", .text tag)]
  | .versionTagSet n v tag =>
    [("prompt", .text n), ("version", .version v), ("tag", .text tag)]
  | .versionCreated n v | .versionDeleted n v => [("prompt", .text n), ("version", .version v)]
  | .registered n v isNew =>
    [("prompt", .text n), ("version", .version v), ("new_prompt", .flag isNew)]
  | .aliasesLost n v aliases =>
    [("prompt", .text n), ("version", .version v),
      ("aliases", .text (Text.Quoted.quoteList aliases))]
  | .aliasSet n a v previous =>
    [("prompt", .text n), ("alias", .text a), ("version", .version v),
      ("previous", .text (Text.Quoted.renderOption (previous.map (·.toNat))))]
  | .aliasDeleted n a => [("prompt", .text n), ("alias", .text a)]
  | .serverError m | .notReady m => [("error", .text m)]
  | .requestReceived r =>
    [("method", .text r.method), ("path", .text r.path), ("uri", .text r.uri),
      ("request_id", .text r.requestId), ("headers", .text r.headers)]
  | .requestCompleted method path status id =>
    [("method", .text method), ("path", .text path), ("status", .number status),
      ("request_id", .text id)]

end Event

end PromptRegistry
