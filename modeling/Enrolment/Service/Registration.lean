import Enrolment.Registry.Backoff
import Enrolment.Service.Challenge

/-!
# Registrations

The operations of a subscriber.  A change to a record reads it, decides on the
record that was read, and replaces it if nobody else was faster; otherwise it
starts over, a limited number of times.

A registration is made, and replaced after it failed, by the subscriber; it is
challenged and decided by the registry.  Making or replacing one starts a round
that asks the registry for it, in the background.  A round carries the version
of the record that it was started for, and its outcome is dropped once the
record is in a later round.

## Main definitions

* `Service` — what the operations share.
* `revise` — change a record.
* `Service.create`, `Service.update`, `Service.answerChallenge`,
  `Service.pushStatus`, `Service.get` — what others ask for.
* `Service.register`, `Service.conclude` — a round, and its end.
* `Service.resume`, `Service.readiness` — starting up, and taking stock.
-/

namespace Enrolment

/-- What the operations share. -/
structure Service where
  /-- The key that the registry seals challenges with. -/
  registryKey : String
  /-- How a round tries again. -/
  retry : Backoff

/-- A change to a record at a moment: the record after it, or none if nothing is
to change. -/
abbrev Change := Moment → Record → Except ServiceError (Option Record)

/-- How often a change is tried. -/
def maxRounds : Nat := 16

/-- Try a change so many times. -/
def reviseWithin (identity : Identity) (change : Change) : (rounds : Nat) → Operation Record
  | 0 => throw (.storage (.contention identity maxRounds))
  | rounds + 1 => do
    let current ← Operation.ofStore (← Operation.ask (.lookup identity))
    let now ← Operation.ask .clock
    match ← Operation.ofExcept id (change now current) with
    | none => return current
    | some next =>
      match ← Operation.ask (.replace next current.version) with
      | .ok stored => return stored
      | .error (.versionConflict _ _) => reviseWithin identity change rounds
      | .error e => throw (.ofStore e)

/-- Change the record of an identity; the record that is stored then. -/
def revise (identity : Identity) (change : Change) : Operation Record :=
  reviseWithin identity change maxRounds

/-! ## Changes -/

/-- What an event makes of a status, or the error that it violates the
protocol. -/
def permit (source : Status) (event : Event) : Except ServiceError Outcome :=
  (react source event).mapError .violation

/-- Follow an event to the next status. -/
def follow (event : Event) : Change := fun now r => do
  match ← permit r.status event with
  | .advance next => return some (r.withStatus next now)
  | .ignore => return none

/-- The record may be in the round that was started at the version.  A record
keeps its version while it waits for the registry. -/
def Record.mayBeIn (r : Record) (round : Nat) : Bool :=
  !(r.status = .initiated && r.version ≠ round)

/-- A change by the outcome of a round, dropped once the record is in a later
one. -/
def inRound (round : Nat) (change : Change) : Change := fun now r =>
  if r.mayBeIn round then change now r else .ok none

/-- The registry took up the request. -/
def acknowledge (ack : Ack) : Change := fun now r => do
  match ← follow .accepted now r with
  | some next => return some { next with messageId := some ack.messageId }
  | none => return none

/-- The registration is made again with another role and payload. -/
def makeAgain (role : String) (payload : Payload) : Change := fun now r => do
  match ← permit r.status .reRegistered with
  | .advance next =>
    return some { r.withStatus next now with role := role, payload := payload, messageId := none }
  | .ignore => return none

/-- The challenge was answered.  Nothing changes if the answer is there
already. -/
def keepAnswer (answer : String) : Change := fun now r => do
  match ← permit r.status .challenged with
  | .advance next =>
    if r.status = next ∧ r.nonce = some answer then return none
    else return some { r.withStatus next now with nonce := some answer }
  | .ignore => return none

namespace Service

/-! ## What others ask for -/

/-- Make a registration and start a round for it.  Making the same one again
changes nothing. -/
def create (identity : Identity) (role : String) (payload : Payload) : Operation Record := do
  let now ← Operation.ask .clock
  let fresh ← Operation.ofExcept .validation (Record.make identity role payload now)
  let _ ← Keys.ensure identity.keyId
  match ← Operation.ask (.insert fresh) with
  | .ok stored =>
    Operation.ask (.schedule stored .initial)
    return stored
  | .error (.alreadyExists _) =>
    let existing ← Operation.ofStore (← Operation.ask (.lookup identity))
    if existing.sameRegistration role payload then return existing
    else throw (.conflict identity)
  | .error e => throw (.ofStore e)

/-- Replace a registration that failed and start a round for it, with the keys
that the registry knows. -/
def update (identity : Identity) (role : String) (payload : Payload) : Operation Record := do
  Operation.ofExcept .validation (checkRole role)
  Operation.ofExcept .validation payload.check
  let _ ← Operation.ofStore (← Operation.ask (.lookup identity))
  let _ ← Keys.publicKeys identity.keyId
  let stored ← revise identity (makeAgain role payload)
  Operation.ask (.schedule stored .update)
  return stored

/-- The one record of a subscriber that can take a challenge. -/
def findChallenged (subscriberId : String) : Operation Record := do
  let records ← Operation.ofStore (← Operation.ask (.ofSubscriber subscriberId))
  match records.filter (·.status.acceptsChallenge) with
  | [] => throw (.notFound ⟨subscriberId, "*"⟩)
  | [r] => return r
  | rs => throw (.validation (.ambiguous subscriberId rs.length))

/-- Answer a challenge of the registry, which may leave out the key.  A status
that takes no challenge is found out before the keys are used. -/
def answerChallenge (s : Service) (subscriberId : String) (keyId : Option String)
    (challenge : String) : Operation String := do
  let current ← match keyId with
    | some keyId => do Operation.ofStore (← Operation.ask (.lookup ⟨subscriberId, keyId⟩))
    | none => findChallenged subscriberId
  let keyId := current.identity.keyId
  let _ ← Operation.ofExcept id (permit current.status .challenged)
  let answer ← Challenge.resolve s.registryKey challenge keyId
  let _ ← revise ⟨subscriberId, keyId⟩ (keepAnswer answer)
  return answer

/-- Follow a status that the registry pushed. -/
def pushStatus (identity : Identity) (status : String) : Operation Record := do
  match Status.read? status with
  | none => throw (.validation (.unknownStatus status))
  | some target => revise identity (follow (.pushed target))

/-- The record of an identity. -/
def get (identity : Identity) : Operation Record := do
  Operation.ofStore (← Operation.ask (.lookup identity))

/-- The number of records with each status. -/
def readiness : Operation (List (Status × Nat)) :=
  Status.all.mapM fun status => do
    let records ← Operation.ofStore (← Operation.ask (.withStatus status))
    return (status, records.length)

/-! ## Rounds -/

/-- Ask the registry once.  A further registration is signed afresh for every
attempt. -/
def callRegistry (request : Request) (kind : RoundKind) : Plan (Except RegistryError Ack) := do
  match kind with
  | .initial => Plan.ask (.call request none)
  | .update =>
    let now ← Plan.ask .clock
    match ← (Keys.authorize request.identity request.body now.unixSeconds).run with
    | .ok header => Plan.ask (.call request (some header))
    | .error e => return .error (.invalidRequest (.reported e.message))

/-- Wait after an attempt. -/
def pauseAfter (retry : Backoff) (attempt : Nat) : Plan Unit := do
  let most := retry.maxJitter attempt
  let drawn ← if most = 0 then pure 0 else Plan.ask (.chance most)
  Plan.ask (.pause (retry.delay attempt drawn))

/-- Record what a round came to.  Nothing is recorded of a round without an
answer. -/
def conclude (r : Record) : Except GiveUp Ack → Operation Record
  | .ok ack => revise r.identity (inRound r.version (acknowledge ack))
  | .error (.definitive _) => revise r.identity (inRound r.version (follow .rejected))
  | .error (.exhausted attempts last) => throw (.noAnswer (.exhausted attempts last))

/-- Ask the registry for a registration until it answers, and record what it
answered. -/
def register (s : Service) (r : Record) (kind : RoundKind) : Operation Record := do
  let keys ← Keys.publicKeys r.identity.keyId
  let messageId ← Operation.ask .freshName
  let request := Request.ofRecord r keys messageId
  conclude r (← (s.retry.run (pauseAfter s.retry) fun _ => callRegistry request kind : Plan _))

/-- Start a round for every record that waits for the registry; their number. -/
def resume : Operation Nat := do
  let pending ← Operation.ofStore (← Operation.ask (.withStatus .initiated))
  pending.forM fun r => Operation.ask (.schedule r (.ofRecord r))
  return pending.length

end Service

end Enrolment
