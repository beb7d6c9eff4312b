import Colloquy.Decimal.Digits
import Colloquy.Text.Search

/-!
# Failures of a provider

What can go wrong when a provider is asked, sorted by what it means for
the caller. The engine does not repeat failed requests, with one
exception: a request that failed because of its response schema may be
sent again without it.
-/

namespace Colloquy.Provider

/-- **Kinds of failure.** -/
inductive Failure.Kind where
  /-- The caller is not let in. -/
  | auth
  /-- Too many requests, or a quota used up. -/
  | rateLimit
  /-- The provider is in trouble. -/
  | serverError
  /-- The request is malformed. -/
  | invalidRequest
  /-- The provider cannot answer in the form asked for. -/
  | schemaUnsupported
  /-- No answer in time. -/
  | timeout
  /-- Anything else. -/
  | unknown
deriving DecidableEq, Repr, Inhabited

/-- **A failed request.** -/
structure Failure where
  /-- What kind of failure it is. -/
  kind : Failure.Kind
  /-- What the provider said. -/
  message : String
deriving DecidableEq, Repr, Inhabited

namespace Failure

/-- All kinds. -/
def Kind.all : List Kind :=
  [.auth, .rateLimit, .serverError, .invalidRequest, .schemaUnsupported, .timeout, .unknown]

/-- The name of a kind. -/
def Kind.name : Kind → String
  | .auth => "auth"
  | .rateLimit => "rate_limit"
  | .serverError => "server_error"
  | .invalidRequest => "invalid_request"
  | .schemaUnsupported => "schema_unsupported"
  | .timeout => "timeout"
  | .unknown => "unknown"

/-- A kind from its name. -/
def Kind.ofName? (name : String) : Option Kind :=
  all.find? fun k => k.name == name

/-- How a kind is announced. -/
def Kind.heading : Kind → String
  | .auth => "Authentication error"
  | .rateLimit => "Rate limit error"
  | .serverError => "Server error"
  | .invalidRequest => "Invalid request"
  | .schemaUnsupported => "Structured output not supported"
  | .timeout => "Timeout"
  | .unknown => "Unknown provider error"

/-- The report of a failure. -/
def report (f : Failure) : String :=
  s!"{f.kind.heading}: {f.message}"

/-- **A failure from the status of a reply** and its text. A timeout of a
gateway is a timeout, not a trouble of the server. -/
def ofStatus (status : Nat) (body : String) : Failure :=
  if status = 401 || status = 403 then ⟨.auth, body⟩
  else if status = 429 then ⟨.rateLimit, body⟩
  else if status = 400 || status = 422 then ⟨.invalidRequest, body⟩
  else if status = 408 || status = 504 then ⟨.timeout, body⟩
  else if 500 ≤ status && status ≤ 599 then ⟨.serverError, body⟩
  else ⟨.unknown, s!"HTTP {status}: {body}"⟩

/-- Whether the same request may succeed later. -/
def isTransient (f : Failure) : Bool :=
  match f.kind with
  | .rateLimit | .serverError | .timeout => true
  | _ => false

/-- **Whether the request failed because of its response schema.** -/
def rejectsSchema (f : Failure) : Bool :=
  match f.kind with
  | .schemaUnsupported => true
  | .invalidRequest =>
    Text.mentions f.message "json mode is not supported"
      || Text.mentions f.message "\"code\":20024"
  | _ => false

end Failure

end Colloquy.Provider
