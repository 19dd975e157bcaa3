import Enrolment.Network.Url
import Enrolment.Registry.Request

/-!
# Speaking to the registry

A client knows the address of the registry.  It makes the request that goes out
and reads the answer that comes back; sending is left to the network.

## Main definitions

* `RegistryClient`, `RegistryClient.make` — a client for an address.
* `Outgoing`, `RegistryClient.outgoing` — the request that goes out.
* `Answer`, `Answer.read` — what came back, and what it means.
-/

namespace Enrolment

/-- A client for a registry. -/
structure RegistryClient where
  /-- The address that requests go to. -/
  address : String
  deriving DecidableEq, Repr

/-- A request that goes out. -/
structure Outgoing where
  /-- The method. -/
  method : String
  /-- The address. -/
  address : String
  /-- The kind of the body. -/
  contentType : String
  /-- The header that carries the signature. -/
  authorization : Option String
  /-- The body. -/
  body : Bytes
  deriving DecidableEq, Repr

namespace RegistryClient

/-- A client for the registry at an address. -/
def make (base : String) : Except RegistryError RegistryClient :=
  let trimmed := Text.stripEnd '/' base.toList
  if trimmed.isEmpty then .error (.invalidRequest .emptyAddress)
  else .ok ⟨String.ofList trimmed ++ "/subscribe"⟩

/-- The text may stand in a header. -/
def isHeaderText (s : String) : Bool :=
  s.toList.all fun c => (32 ≤ c.toNat && c.toNat ≠ 127) || c = '\t'

/-- The request that goes out, which is a first registration if it is not
signed. -/
def outgoing (c : RegistryClient) (r : Request) (authorization : Option String) :
    Except RegistryError Outgoing := do
  if !(Url.read? c.address).any Url.isSendable then throw (.invalidRequest .badAddress)
  if !(authorization.all isHeaderText) then throw (.invalidRequest .badHeader)
  return {
    method := if authorization.isSome then "PATCH" else "POST"
    address := c.address
    contentType := "application/json"
    authorization := authorization
    body := r.body }

/-- The name of the client in messages. -/
def description : String := "http registry client"

end RegistryClient

/-- What came back from the network. -/
inductive Answer
  /-- Nothing. -/
  | lost
  /-- An answer that breaks off. -/
  | brokenOff
  /-- A whole answer. -/
  | whole (status : Nat) (body : Bytes)
  deriving DecidableEq, Repr

/-- What came back, taken as the answer to a request. -/
def Answer.read : Answer → Except RegistryError Ack
  | lost => .error (.unavailable .unreachable)
  | brokenOff => .error (.invalidResponse .brokenOff)
  | whole status body =>
    let text := Text.lossyText body
    if 200 ≤ status ∧ status < 300 then
      (Ack.reader.fromText text).mapError fun e => .invalidResponse (.document e)
    else .error (.ofStatus status text)

end Enrolment
