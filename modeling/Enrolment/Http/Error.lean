import Enrolment.Error

/-!
# Errors as answers

Every error becomes an answer with a status and a body that names its type, a
code and a message.  Faults of the caller tell what is wrong; everything else is
an internal error.

## Main definitions

* `ApiError`, `ApiError.ofService` — the errors of the interface, and the one
  that an operation's error becomes.
* `ApiError.status`, `ApiError.body` — the answer.
-/

namespace Enrolment.Http

/-- An error of the interface, with its message. -/
inductive ApiError
  /-- The request is wrong. -/
  | badRequest (text : String)
  /-- There is no such thing. -/
  | notFound (text : String)
  /-- The status does not permit what was asked. -/
  | protocolViolation (text : String)
  /-- The pair is registered otherwise. -/
  | conflict (text : String)
  /-- The challenge cannot be answered. -/
  | decryption (text : String)
  /-- The service failed. -/
  | internal (text : String)
  deriving DecidableEq, Repr

namespace ApiError

/-- The message in the body. -/
def text : ApiError → String
  | badRequest t | notFound t | protocolViolation t | conflict t | decryption t | internal t => t

/-- The wording of the error. -/
def message : ApiError → String
  | badRequest t => "Invalid request: " ++ t
  | notFound t => "Not found: " ++ t
  | protocolViolation t => "Protocol violation: " ++ t
  | conflict t => "Conflict: " ++ t
  | decryption t => "Decryption failed: " ++ t
  | internal t => "Internal error: " ++ t

/-- The status of the answer. -/
def status : ApiError → Nat
  | badRequest _ => 400
  | notFound _ => 404
  | protocolViolation _ | conflict _ => 409
  | decryption _ => 422
  | internal _ => 500

/-- The type and the code of the error. -/
def labels : ApiError → String × String
  | badRequest _ => ("validation", "BAD_REQUEST")
  | notFound _ => ("not_found", "NOT_FOUND")
  | protocolViolation _ => ("protocol", "PROTOCOL_VIOLATION")
  | conflict _ => ("conflict", "CONFLICT")
  | decryption _ => ("decryption", "DECRYPTION_FAILED")
  | internal _ => ("internal", "INTERNAL_ERROR")

/-- The body of the answer. -/
def body (e : ApiError) : Json.Value :=
  .object [("error", .object [("type", .text e.labels.1), ("code", .text e.labels.2),
    ("message", .text e.text)])]

/-- The error that an operation's error becomes. -/
def ofService : ServiceError → ApiError
  | .validation e => badRequest e.message
  | .violation v => protocolViolation (v.event.shown ++ " not permitted from " ++ v.source.name)
  | e@(.conflict _) => conflict e.message
  | e@(.notFound _) => notFound e.message
  | .decryption e => decryption e.message
  | e => internal e.message

end ApiError

end Enrolment.Http
