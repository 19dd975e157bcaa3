import Enrolment.Identity
import Enrolment.Payload
import Enrolment.Status

/-!
# Records of registrations

A record is what the subscriber keeps about one registration: what was
registered, how far the registration has come, the answer to the last challenge,
and the name under which the registry acknowledged the request.  Its version
counts the writes to the record.

An answer to a challenge is kept only while the registry has taken up the
request and not yet decided; every other change of status drops it
(`nonce_withStatus`).

## Main definitions

* `Record`, `Record.fresh` — a record, and a new one.
* `Record.withStatus` — the record after a change of status.
* `Record.sameRegistration` — the record registers the same.
* `Record.toJson`, `Record.reader` — the record in documents.
* `Summary`, `Record.summary` — what others may see of a record.
-/

namespace Enrolment

/-- What the subscriber keeps about one registration. -/
structure Record where
  /-- Whom the registration is for. -/
  identity : Identity
  /-- The part that the subscriber plays in the network. -/
  role : String
  /-- How far the registration has come. -/
  status : Status
  /-- What is registered. -/
  payload : Payload
  /-- The answer to the last challenge. -/
  nonce : Option String
  /-- The name under which the registry acknowledged the request. -/
  messageId : Option String
  /-- When the record was made. -/
  createdAt : Moment
  /-- When the record was last changed. -/
  updatedAt : Moment
  /-- The number of writes to the record, which is taken to stay below 2 ^ 64. -/
  version : Nat

namespace Record

/-- A record that is not stored yet. -/
def fresh (identity : Identity) (role : String) (payload : Payload) (now : Moment) : Record where
  identity := identity
  role := role
  status := .initiated
  payload := payload
  nonce := none
  messageId := none
  createdAt := now
  updatedAt := now
  version := 0

/-- The record after a change of status. -/
def withStatus (r : Record) (status : Status) (now : Moment) : Record :=
  { r with
    status := status
    nonce := if status = .underSubscription then r.nonce else none
    updatedAt := now }

theorem nonce_withStatus {r : Record} {status : Status} {now : Moment}
    (h : status ≠ .underSubscription) : (r.withStatus status now).nonce = none := by
  simp [withStatus, h]

/-- The record registers the same role and payload. -/
def sameRegistration (r : Record) (role : String) (payload : Payload) : Bool :=
  r.role == role && r.payload.same payload

/-! ## In documents -/

/-- The value that stands for a record in a document. -/
def toJson (r : Record) : Json.Value :=
  .object <|
    [("subscriber_id", .text r.identity.subscriberId), ("key_id", .text r.identity.keyId),
      ("type", .text r.role), ("status", r.status.toJson), ("payload", r.payload.toJson)] ++
    Json.Value.optional "challenge_nonce" (r.nonce.map .text) ++
    Json.Value.optional "registry_message_id" (r.messageId.map .text) ++
    [("created_at", .text r.createdAt.text), ("updated_at", .text r.updatedAt.text),
      ("version", .nat r.version)]

/-- The members that a document may give. -/
def members : List Json.Member :=
  [.must "subscriber_id" Json.text, .must "key_id" Json.text, .must "type" Json.text,
    .must "status" Status.reader, .must "payload" Payload.reader,
    .may "challenge_nonce" Json.text, .may "registry_message_id" Json.text,
    .must "created_at" Json.moment, .must "updated_at" Json.moment, .must "version" Json.word64]

/-- The record of the members that a document gave. -/
def ofCells (depth : Nat) : Json.Cells → Except Json.ReadError Record
  | [subscriberId, keyId, role, status, payload, nonce, messageId, createdAt, updatedAt,
      version] => do
    return {
      identity := ⟨← Json.text.must depth subscriberId, ← Json.text.must depth keyId⟩
      role := ← Json.text.must depth role
      status := ← Status.reader.must depth status
      payload := ← Payload.reader.must depth payload
      nonce := ← Json.text.may depth nonce
      messageId := ← Json.text.may depth messageId
      createdAt := ← Json.moment.must depth createdAt
      updatedAt := ← Json.moment.must depth updatedAt
      version := ← Json.word64.must depth version }
  | _ => .error .malformed

/-- A record in a document. -/
def reader : Json.Reader Record := fun depth t => do
  ofCells (depth + 1) (← Json.struct "Subscription" members depth t)

end Record

/-- What others may see of a record: neither what is registered nor the answer
to a challenge. -/
structure Summary where
  /-- Whom the registration is for. -/
  identity : Identity
  /-- The part that the subscriber plays in the network. -/
  role : String
  /-- How far the registration has come. -/
  status : Status
  /-- The name under which the registry acknowledged the request. -/
  messageId : Option String
  /-- When the record was made. -/
  createdAt : Moment
  /-- When the record was last changed. -/
  updatedAt : Moment
  /-- The number of writes to the record. -/
  version : Nat

/-- What others may see of the record. -/
def Record.summary (r : Record) : Summary where
  identity := r.identity
  role := r.role
  status := r.status
  messageId := r.messageId
  createdAt := r.createdAt
  updatedAt := r.updatedAt
  version := r.version

namespace Summary

/-- The value that stands for a summary in a document. -/
def toJson (s : Summary) : Json.Value :=
  .object <|
    [("subscriber_id", .text s.identity.subscriberId), ("key_id", .text s.identity.keyId),
      ("type", .text s.role), ("status", s.status.toJson)] ++
    Json.Value.optional "registry_message_id" (s.messageId.map .text) ++
    [("created_at", .text s.createdAt.text), ("updated_at", .text s.updatedAt.text),
      ("version", .nat s.version)]

/-- The members that a document may give. -/
def members : List Json.Member :=
  [.must "subscriber_id" Json.text, .must "key_id" Json.text, .must "type" Json.text,
    .must "status" Status.reader, .nullable "registry_message_id" Json.text,
    .must "created_at" Json.moment, .must "updated_at" Json.moment, .must "version" Json.word64]

/-- The summary of the members that a document gave. -/
def ofCells (depth : Nat) : Json.Cells → Except Json.ReadError Summary
  | [subscriberId, keyId, role, status, messageId, createdAt, updatedAt, version] => do
    return {
      identity := ⟨← Json.text.must depth subscriberId, ← Json.text.must depth keyId⟩
      role := ← Json.text.must depth role
      status := ← Status.reader.must depth status
      messageId := ← Json.text.may depth messageId
      createdAt := ← Json.moment.must depth createdAt
      updatedAt := ← Json.moment.must depth updatedAt
      version := ← Json.word64.must depth version }
  | _ => .error .malformed

/-- A summary in a document. -/
def reader : Json.Reader Summary := fun depth t => do
  ofCells (depth + 1) (← Json.struct "SubscriptionSummary" members depth t)

end Summary

end Enrolment
