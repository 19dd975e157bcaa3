import Enrolment.Json.Reading

/-!
# Why a call to the registry fails

A call fails because the registry could not be reached, because it refused the
request, because its answer makes no sense, or because the request could not be
made at all.  The first and the third are worth another try.

## Main definitions

* `RegistryError`, `RegistryError.message` — the faults, and their wording.
* `RegistryError.isRetryable` — the call is worth another try.
* `RegistryError.ofStatus` — the fault that an answer without success tells.
-/

namespace Enrolment

/-- Why the registry could not be reached. -/
inductive Outage
  /-- It answered that it cannot serve the request now. -/
  | status (code : Nat)
  /-- No connection was made, or it broke before the answer, or no answer came
  in time. -/
  | unreachable
  /-- A fault that was reported in words. -/
  | reported (text : String)
  deriving DecidableEq, Repr

/-- The wording of an outage. -/
def Outage.message : Outage → String
  | status code => "HTTP " ++ Nat.repr code
  | unreachable => "no answer"
  | reported text => text

/-- Why an answer makes no sense. -/
inductive AnswerError
  /-- It is not the document that was expected. -/
  | document (e : Json.ReadError)
  /-- It breaks off. -/
  | brokenOff
  /-- A fault that was reported in words. -/
  | reported (text : String)

/-- The wording of the fault of an answer. -/
def AnswerError.message : AnswerError → String
  | document e => e.message
  | brokenOff => "the answer breaks off"
  | reported text => text

/-- Why a request could not be made. -/
inductive RequestError
  /-- The address of the registry is empty. -/
  | emptyAddress
  /-- The address of the registry is not absolute. -/
  | badAddress
  /-- The authorization cannot stand in a header. -/
  | badHeader
  /-- A fault that was reported in words. -/
  | reported (text : String)
  deriving DecidableEq, Repr

/-- The wording of the fault of a request. -/
def RequestError.message : RequestError → String
  | emptyAddress => "registry base URL is empty"
  | badAddress => "the address is not absolute"
  | badHeader => "the authorization cannot be sent"
  | reported text => text

/-- Why a call to the registry fails. -/
inductive RegistryError
  /-- The registry could not be reached, or cannot serve the request now. -/
  | unavailable (e : Outage)
  /-- The registry refused the request. -/
  | rejected (status : Nat) (code message : String)
  /-- The answer makes no sense. -/
  | invalidResponse (e : AnswerError)
  /-- The request could not be made. -/
  | invalidRequest (e : RequestError)

namespace RegistryError

/-- The wording of the fault. -/
def message : RegistryError → String
  | unavailable e => "Registry unavailable: " ++ e.message
  | rejected status code message =>
    "Registry rejected request (" ++ Nat.repr status ++ "): " ++ code ++ ": " ++ message
  | invalidResponse e => "Invalid registry response: " ++ e.message
  | invalidRequest e => "Invalid request: " ++ e.message

/-- The call is worth another try. -/
def isRetryable : RegistryError → Bool
  | unavailable _ | invalidResponse _ => true
  | rejected .. | invalidRequest _ => false

/-- The code and the message in the error member of a body. -/
def details? (body : String) : Option (String × String) := do
  let value ← (Json.value.fromText body).toOption
  let error ← value.member? "error"
  let code ← (← error.member? "code").asText?
  return (code, ((error.member? "message").bind Json.Value.asText?).getD "")

/-- The status asks for another try later. -/
def isTransient (status : Nat) : Bool := 500 ≤ status || status = 408 || status = 429

/-- The fault that an answer without success tells.  A body that names no code
is itself the message, and the status the code. -/
def ofStatus (status : Nat) (body : String) : RegistryError :=
  if isTransient status then .unavailable (.status status)
  else
    let (code, message) := (details? body).getD (Nat.repr status, Text.trimmed body)
    .rejected status code message

end RegistryError

end Enrolment
