import PromptRegistry.Failure
import PromptRegistry.Http.Message

/-!
# Problems

What the body of a response says about a request that could not be served.
-/

namespace PromptRegistry.Http

inductive ProblemKind where
  | invalidRequest
  | notFound
  | conflict
  | server
  | unavailable
deriving DecidableEq, Repr

namespace ProblemKind

def label : ProblemKind → String
  | .invalidRequest => "invalid_request_error"
  | .notFound => "not_found_error"
  | .conflict => "conflict_error"
  | .server => "server_error"
  | .unavailable => "service_unavailable_error"

def status : ProblemKind → Nat
  | .invalidRequest => 400
  | .notFound => 404
  | .conflict => 409
  | .server => 500
  | .unavailable => 503

def code? : ProblemKind → Option String
  | .invalidRequest => some "INVALID_PARAMETER_VALUE"
  | .notFound => some "RESOURCE_DOES_NOT_EXIST"
  | .conflict => some "RESOURCE_ALREADY_EXISTS"
  | .server => some "INTERNAL_ERROR"
  | .unavailable => none

def ofFailure : FailureKind → ProblemKind
  | .notFound => .notFound
  | .validation => .invalidRequest
  | .conflict => .conflict
  | .configuration | .internal | .storage => .server

end ProblemKind

structure Problem where
  status : Nat
  kind : ProblemKind
  message : String
  param : Option String
  code : Option String

namespace Problem

def new (kind : ProblemKind) (message : String) : Problem :=
  ⟨kind.status, kind, message, none, kind.code?⟩

def ofFailure (f : Failure) : Problem := new (.ofFailure f.kind) f.detail

def malformed (status : Nat) (message : String) : Problem :=
  { new .invalidRequest message with status, code := some "MALFORMED_REQUEST" }

def withParam (param : String) (p : Problem) : Problem := { p with param := some param }

def describe (p : Problem) : String := p.kind.label ++ ": " ++ p.message

def toJson (p : Problem) : Json :=
  .object [("error", .object <|
    [("message", .string p.message), ("type", .string p.kind.label)] ++
      Json.optional "param" (p.param.map .string) ++ Json.optional "code" (p.code.map .string))]

def toResponse (p : Problem) : Response := .json p.status p.toJson

end Problem

end PromptRegistry.Http
