import Enrolment.Keyset
import Enrolment.Registry.Error

/-!
# Requests to the registry

A request carries everything that a record registers, the public keys of its
identity, and a name that ties the attempts of one round together.  Its body is
the written document, and a signature covers exactly these bytes.

The registry answers a request that it takes up with an acknowledgement.

## Main definitions

* `Request`, `Request.ofRecord` — a request, and the one for a record.
* `Request.toJson`, `Request.reader`, `Request.body` — its document.
* `Ack` — the acknowledgement.
* `RoundKind` — a first registration or a further one.
-/

namespace Enrolment

/-- A request to register. -/
structure Request where
  /-- Whom the registration is for. -/
  identity : Identity
  /-- The part that the subscriber plays in the network. -/
  role : String
  /-- What is registered. -/
  payload : Payload
  /-- The public keys of the identity. -/
  keys : PublicKeys
  /-- The name of the round. -/
  messageId : String

namespace Request

/-- The request for a record. -/
def ofRecord (r : Record) (keys : PublicKeys) (messageId : String) : Request where
  identity := r.identity
  role := r.role
  payload := r.payload
  keys := keys
  messageId := messageId

/-- The value that stands for a request in a document. -/
def toJson (r : Request) : Json.Value :=
  .object <|
    [("subscriber_id", .text r.identity.subscriberId), ("key_id", .text r.identity.keyId),
      ("type", .text r.role), ("url", .text r.payload.url), ("domain", .text r.payload.domain)] ++
    Json.Value.optional "location" r.payload.location ++
    [("signing_public_key", .text r.keys.signing), ("encr_public_key", .text r.keys.encryption)] ++
    Payload.momentMember "valid_from" r.payload.validFrom ++
    Payload.momentMember "valid_until" r.payload.validUntil ++
    [("message_id", .text r.messageId)]

/-- The body of a request. -/
def body (r : Request) : Bytes := Text.encode r.toJson.chars

/-- The members that a document may give. -/
def members : List Json.Member :=
  [.must "subscriber_id" Json.text, .must "key_id" Json.text, .must "type" Json.text,
    .must "url" Json.text, .must "domain" Json.text, .may "location" Json.value,
    .must "signing_public_key" Json.text, .must "encr_public_key" Json.text,
    .may "valid_from" Json.moment, .may "valid_until" Json.moment, .must "message_id" Json.text]

/-- The request of the members that a document gave. -/
def ofCells (depth : Nat) : Json.Cells → Except Json.ReadError Request
  | [subscriberId, keyId, role, url, domain, location, signing, encryption, validFrom, validUntil,
      messageId] => do
    return {
      identity := ⟨← Json.text.must depth subscriberId, ← Json.text.must depth keyId⟩
      role := ← Json.text.must depth role
      payload := {
        url := ← Json.text.must depth url
        domain := ← Json.text.must depth domain
        location := ← Json.value.may depth location
        validFrom := ← Json.moment.may depth validFrom
        validUntil := ← Json.moment.may depth validUntil }
      keys := ⟨← Json.text.must depth signing, ← Json.text.must depth encryption⟩
      messageId := ← Json.text.must depth messageId }
  | _ => .error .malformed

/-- A request in a document. -/
def reader : Json.Reader Request := fun depth t => do
  ofCells (depth + 1) (← Json.struct "SubscribeRequest" members depth t)

end Request

/-- The acknowledgement of a request. -/
structure Ack where
  /-- What the registry says about it. -/
  status : String
  /-- The name under which the registry acknowledged the request. -/
  messageId : String
  deriving DecidableEq, Repr

namespace Ack

/-- The value that stands for an acknowledgement in a document. -/
def toJson (a : Ack) : Json.Value :=
  .object [("status", .text a.status), ("message_id", .text a.messageId)]

/-- An acknowledgement in a document. -/
def reader : Json.Reader Ack := fun depth t => do
  match ← Json.struct "SubscribeAck"
    [.must "status" Json.text, .must "message_id" Json.text] depth t with
  | [status, messageId] =>
    return ⟨← Json.text.must (depth + 1) status, ← Json.text.must (depth + 1) messageId⟩
  | _ => throw .malformed

end Ack

/-- How a round asks for the registration. -/
inductive RoundKind
  /-- As a first registration. -/
  | initial
  /-- As the replacement of one that the registry knows, signed. -/
  | update
  deriving DecidableEq, Repr

/-- The kind of round that an initiated record is in.  A new record is stored
with version one, and a record comes back to the start by a replacement only. -/
def RoundKind.ofRecord (r : Record) : RoundKind := if 1 < r.version then .update else .initial

end Enrolment
