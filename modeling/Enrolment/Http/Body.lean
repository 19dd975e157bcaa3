import Enrolment.Record

/-!
# Bodies of requests and answers

What the other side sends and gets.  A registration is sent as one flat object:
the identity and the type are read as they come, and the members of the payload
are kept until the object ends.

## Main definitions

* `RegistrationBody` — a registration, or its replacement.
* `StatusBody` — a status that is pushed.
* `ChallengeBody`, `AnswerBody` — a challenge and the answer to it.
-/

namespace Enrolment.Http

/-- A registration, or its replacement. -/
structure RegistrationBody where
  /-- Whom the registration is for. -/
  identity : Identity
  /-- The part that the subscriber plays in the network. -/
  role : String
  /-- What is registered. -/
  payload : Payload

namespace RegistrationBody

/-- The members that are read as they come. -/
def members : List Json.Member :=
  [.must "subscriber_id" Json.text, .must "key_id" Json.text, .must "type" Json.text]

/-- The payload of the members that were kept. -/
def readPayload (depth : Nat) (kept : List (Option String × Json.Tree)) :
    Except Json.ReadError Payload := do
  let cells ← Json.readMembers depth Json.skipped Payload.members
    (Payload.members.map fun _ => none) kept
  Json.demandMembers Payload.members cells
  Payload.ofCells depth cells

/-- A registration in a document, which is an object. -/
def reader : Json.Reader RegistrationBody
  | depth, .object parts closed => do
    if Json.maxDepth ≤ depth then throw .malformed
    let cells ← Json.readMembers (depth + 1) Json.kept members (members.map fun _ => none) parts
    if ¬closed then throw .malformed
    Json.demandMembers members cells
    let kept := parts.filter fun m => !members.any fun member => m.1 == some member.name
    let payload ← (readPayload (depth + 1) kept).mapError Json.ReadError.withoutPlace
    match cells with
    | [subscriberId, keyId, role] =>
      return {
        identity := ⟨← Json.text.must depth subscriberId, ← Json.text.must depth keyId⟩
        role := ← Json.text.must depth role
        payload := payload }
    | _ => throw .malformed
  | _, t => Json.refuse "struct SubscribeBody" t

end RegistrationBody

/-- A status that is pushed. -/
structure StatusBody where
  /-- Whom the registration is for. -/
  identity : Identity
  /-- The name of the status. -/
  status : String
  deriving DecidableEq, Repr

/-- A pushed status in a document. -/
def StatusBody.reader : Json.Reader StatusBody := fun depth t => do
  match ← Json.struct "StatusUpdateBody"
    [.must "subscriber_id" Json.text, .must "key_id" Json.text, .must "status" Json.text]
    depth t with
  | [subscriberId, keyId, status] =>
    return ⟨⟨← Json.text.must depth subscriberId, ← Json.text.must depth keyId⟩,
      ← Json.text.must depth status⟩
  | _ => throw .malformed

/-- A challenge of the registry. -/
structure ChallengeBody where
  /-- The subscriber. -/
  subscriberId : String
  /-- The key; none if the registry addresses subscribers only. -/
  keyId : Option String
  /-- The sealed challenge. -/
  challenge : String
  deriving DecidableEq, Repr

/-- A challenge in a document. -/
def ChallengeBody.reader : Json.Reader ChallengeBody := fun depth t => do
  match ← Json.struct "OnSubscribeBody"
    [.must "subscriber_id" Json.text, .may "key_id" Json.text, .must "challenge" Json.text]
    depth t with
  | [subscriberId, keyId, challenge] =>
    return ⟨← Json.text.must depth subscriberId, ← Json.text.may depth keyId,
      ← Json.text.must depth challenge⟩
  | _ => throw .malformed

/-- The answer to a challenge. -/
structure AnswerBody where
  /-- The text that the challenge sealed. -/
  answer : String
  deriving DecidableEq, Repr

namespace AnswerBody

/-- The value that stands for an answer in a document. -/
def toJson (b : AnswerBody) : Json.Value := .object [("answer", .text b.answer)]

/-- An answer in a document. -/
def reader : Json.Reader AnswerBody := fun depth t => do
  match ← Json.struct "OnSubscribeResponse" [.must "answer" Json.text] depth t with
  | [answer] => return ⟨← Json.text.must depth answer⟩
  | _ => throw .malformed

end AnswerBody

end Enrolment.Http
