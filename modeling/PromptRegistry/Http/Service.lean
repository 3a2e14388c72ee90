import PromptRegistry.Http.Endpoint
import PromptRegistry.Http.Input
import PromptRegistry.Http.View

/-!
# The service

A request is led to its endpoint, which reads what it needs, asks the registry and shows the
result. Around that every request is logged and every response gets its security headers.
-/

namespace PromptRegistry.Http

/-- What a request meets when it arrives and does not bring itself. -/
structure Arrival where
  now : Timestamp
  freshId : String
  /-- The milliseconds that a storage takes to answer. -/
  elapsed : Nat

/-- Shows the result of a procedure, or its failure as a problem that is adapted first. -/
def concludeWith (adapt : Problem → Problem) (p : Procedure α) (present : α → Response) :
    Procedure Response := do
  match ← p.attempt with
  | .ok a => return present a
  | .error e =>
    let problem := Problem.ofFailure e
    if problem.kind = .server then
      Procedure.emit (.serverError e.detail)
    return (adapt problem).toResponse

def conclude (p : Procedure α) (present : α → Response) : Procedure Response :=
  concludeWith id p present

def given (read : Except Problem α) (next : α → Procedure Response) : Procedure Response :=
  match read with
  | .ok a => next a
  | .error problem => return problem.toResponse

def givenVersion (text : String) (next : UInt32 → Procedure Response) : Procedure Response :=
  given ((Rules.readVersion text).mapError fun v =>
    (Problem.new .invalidRequest v.message).withParam "version") next

def foundOr (missing : Missing) : Option Details → Response
  | some d => .json 200 d.view
  | none => (Problem.new .notFound missing.message).toResponse

def checkReadiness (elapsed : Nat) : Procedure Response := do
  let count ← Registry.count.attempt
  match count with
  | .ok _ => return .json 200 (readinessView elapsed count)
  | .error e =>
    Procedure.emit (.notReady e.message)
    return .json 503 (readinessView elapsed count)

def answer (sizes : Search.PageSizes) (a : Arrival) (r : Request) :
    Endpoint → Procedure Response
  | .health => return .json 200 healthView
  | .ready => checkReadiness a.elapsed
  | .live => return .bare 200
  | .searchPrompts =>
    given (r.readQuery searchQuery?) fun q => do
      Procedure.emit (.searching q.filter)
      conclude (Registry.searchPrompts sizes q) fun page => .json 200 (page.view (·.view))
  | .createPrompt =>
    given (r.read decodePromptDraft) fun d => do
      Procedure.emit (.creating d.name)
      conclude (Registry.createPrompt a.now d) fun p => .json 201 p.view
  | .getPrompt name => conclude (Registry.requirePrompt name) fun p => .json 200 p.view
  | .updatePrompt name =>
    given (r.read decodeDescription) fun description =>
      conclude (Registry.updatePrompt a.now name description) fun p => .json 200 p.view
  | .deletePrompt name => conclude (Registry.deletePrompt name) fun _ => .json 200 deletedView
  | .setPromptTag name key =>
    given (r.read decodeTagValue) fun value =>
      conclude (Registry.setPromptTag a.now name key value) fun p => .json 200 p.view
  | .deletePromptTag name key =>
    conclude (Registry.deletePromptTag a.now name key) fun p => .json 200 p.view
  | .listVersions name =>
    given (r.readQuery listingQuery?) fun (size, token) => do
      Procedure.emit (.listingVersions name)
      conclude (Registry.searchVersions sizes name size token) fun page =>
        .json 200 (page.view (·.view))
  | .createVersion name =>
    given (r.read decodeNewVersion) fun d =>
      conclude (Registry.createVersion a.now name d) fun d => .json 201 d.view
  | .getVersion name version =>
    givenVersion version fun v =>
      conclude (Registry.getVersion name v) (foundOr (.version name v))
  | .deleteVersion name version =>
    givenVersion version fun v =>
      conclude (Registry.deleteVersion a.now name v) fun _ => .json 200 deletedView
  | .setVersionTag name version key =>
    given (r.read decodeTagValue) fun value =>
      givenVersion version fun v =>
        conclude (Registry.setVersionTag a.now name v key value) fun d => .json 200 d.view
  | .deleteVersionTag name version key =>
    givenVersion version fun v =>
      conclude (Registry.deleteVersionTag a.now name v key) fun d => .json 200 d.view
  | .formatVersion name version =>
    given (r.read decodeFormatInput) fun input =>
      givenVersion version fun v =>
        conclude (Registry.formatVersion name v input.values input.allowPartial) fun f =>
          .json 200 f.view
  | .getAlias name aliasName =>
    conclude (Registry.getByAlias name aliasName) (foundOr (.aliasOf name aliasName))
  | .setAlias name aliasName =>
    given (r.read decodeAliasTarget) fun v =>
      conclude (Registry.setAlias a.now name aliasName v) fun d => .json 200 d.view
  | .deleteAlias name aliasName =>
    conclude (Registry.deleteAlias a.now name aliasName) fun _ => .json 200 deletedView
  | .register =>
    given (r.read decodeRegistration) fun reg => do
      Procedure.emit (.registering reg.name)
      conclude (Registry.register a.now reg) fun d => .json 201 d.view
  | .load =>
    given (r.readQuery addressQuery?) fun uri =>
      concludeWith (·.withParam "uri") (Registry.load uri) fun d => .json 200 d.view
  | .format =>
    given (r.read decodeFormatInput) fun input =>
      match input.uri with
      | none =>
        return ((Problem.new .invalidRequest "Missing prompt URI").withParam "uri").toResponse
      | some uri =>
        conclude (Registry.format uri input.values input.allowPartial) fun f => .json 200 f.view

def notAllowed (r : Resource) : Response :=
  { Response.bare 405 with
    headers := [("allow", ",".intercalate (r.methods.map (·.word)))] }

/-- The response to a path with a variable part that spells no text. -/
def invalidPart (name : String) : Response :=
  .text 400 ("Invalid URL: Invalid UTF-8 in \x60" ++ name ++ "\x60")

def dispatch (sizes : Search.PageSizes) (a : Arrival) (resource : Option Resource)
    (r : Request) : Procedure Response :=
  match resource with
  | none => return .bare 404
  | some resource =>
    match resource.endpoint? r.method with
    | none => return notAllowed resource
    | some endpoint => do
      let response ←
        match endpoint.unescaped with
        | .error name => pure (invalidPart name)
        | .ok endpoint => answer sizes a r endpoint
      return if r.method = .head then response.withoutBody else response

/-! ## What surrounds every request -/

def sensitiveHeaders : List String :=
  ["authorization", "proxy-authorization", "x-api-key", "cookie", "set-cookie"]

def loggedHeaders : List String :=
  ["content-type", "content-length", "accept", "user-agent", "x-forwarded-for", "x-real-ip",
    "authorization", "x-api-key"]

def describeHeader (h : String × String) : String :=
  h.1 ++ "=" ++
    if sensitiveHeaders.contains h.1 then "[REDACTED]" else (plain? h.2).getD "[invalid]"

def describeHeaders (hs : Headers) : String :=
  ", ".intercalate <|
    (hs.grouped.filter fun h => loggedHeaders.contains h.1).map describeHeader

def requestIdHeader : String := "x-request-id"

def Request.id? (r : Request) : Option String :=
  ((r.headers.first? requestIdHeader).bind plain?).filter (!·.isEmpty)

def securityHeaders : Headers :=
  [("x-content-type-options", "nosniff"),
    ("x-frame-options", "DENY"),
    ("referrer-policy", "strict-origin-when-cross-origin"),
    ("content-security-policy", "default-src 'none'; frame-ancestors 'none'"),
    ("strict-transport-security", "max-age=31536000; includeSubDomains"),
    ("cache-control", "no-store, no-cache, must-revalidate")]

def Response.secured (r : Response) : Response :=
  securityHeaders.foldl (fun r h => r.setHeader h.1 h.2) r

def serve (sizes : Search.PageSizes) (a : Arrival) (r : Request) : Procedure Response := do
  let resource := Resource.ofPath? r.target.path
  let id := r.id?.getD a.freshId
  let path := (resource.map (·.pattern)).getD (String.ofList r.target.path)
  Procedure.emit <| .requestReceived
    { method := r.method.word, path, uri := r.target.render, requestId := id,
      headers := describeHeaders r.headers }
  let response ← dispatch sizes a resource r
  Procedure.emit (.requestCompleted r.method.word path response.status id)
  return response.secured.setHeader requestIdHeader id

/-- Answers a request to a process that has no storage. -/
def serveProbe (sizes : Search.PageSizes) (a : Arrival) (r : Request) : Procedure Response :=
  dispatch sizes a ((Resource.ofPath? r.target.path).filter fun x => x = .health || x = .live) r

end PromptRegistry.Http
