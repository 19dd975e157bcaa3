import Enrolment.Input
import Enrolment.Registry.Error
import Enrolment.Status.Graph
import Enrolment.Text.Base64

/-!
# Why an operation fails

Every operation of the subscriber fails with one of a few kinds of errors, each
of which keeps its cause.

## Main definitions

* `KeyError` — the faults of keys and signatures.
* `ChallengeError` — why a challenge cannot be answered.
* `StoreError` — what a store may answer instead of a record.
* `ServiceError`, `ServiceError.message` — the errors of the operations.
* `ServiceError.ofStore` — the error that a store's answer becomes.
-/

namespace Enrolment

/-- What is wrong with a key. -/
inductive KeyError
  /-- It is not Base64. -/
  | encoding (e : Text.Base64Error)
  /-- It has the wrong number of bytes. -/
  | length (length : Nat)
  /-- It is no point of the curve. -/
  | notOnCurve
  /-- A fault that was reported in words. -/
  | reported (text : String)
  deriving DecidableEq, Repr

/-- The wording of the fault of a key. -/
def KeyError.message : KeyError → String
  | encoding e => "invalid key encoding: " ++ e.message
  | length n => "invalid key length: expected 32, got " ++ Nat.repr n
  | notOnCurve => "signature error: Cannot decompress Edwards point"
  | reported text => text

/-- Why a challenge cannot be answered. -/
inductive ChallengeError
  /-- It is not Base64. -/
  | encoding (e : Text.Base64Error)
  /-- It holds nothing after the nonce. -/
  | tooShort
  /-- It was not sealed for the key by the registry. -/
  | unauthentic
  /-- What it holds is no text. -/
  | notText
  /-- What it holds is the empty text. -/
  | emptyAnswer
  /-- A fault that was reported in words, such as one of the holder of the
  keys. -/
  | reported (text : String)
  deriving DecidableEq, Repr

/-- The wording of the fault of a challenge. -/
def ChallengeError.message : ChallengeError → String
  | encoding e => "invalid base64: " ++ e.message
  | tooShort => "ciphertext too short"
  | unauthentic => "authentication failed"
  | notText => "plaintext is not UTF-8"
  | emptyAnswer => "challenge decrypted to empty answer"
  | reported text => text

/-- What a store may answer instead of what it was asked for. -/
inductive StoreError
  /-- There is no such record. -/
  | notFound (identity : Identity)
  /-- There is a record already. -/
  | alreadyExists (identity : Identity)
  /-- The record has another version than expected. -/
  | versionConflict (expected actual : Nat)
  /-- The database failed. -/
  | database (text : String)
  /-- A stored record cannot be read. -/
  | serialization (text : String)
  /-- The database cannot be reached. -/
  | connection (text : String)
  deriving DecidableEq, Repr

/-- The wording of a store's error. -/
def StoreError.message : StoreError → String
  | notFound identity => "Subscription not found: " ++ identity.shown
  | alreadyExists identity => "Subscription already exists: " ++ identity.shown
  | versionConflict expected actual =>
    "Version conflict: expected " ++ Nat.repr expected ++ ", found " ++ Nat.repr actual
  | database text => "Database error: " ++ text
  | serialization text => "Serialization error: " ++ text
  | connection text => "Connection error: " ++ text

/-- Why a change could not be stored. -/
inductive StorageFault
  /-- Other writers were faster in every round. -/
  | contention (identity : Identity) (rounds : Nat)
  /-- The store failed. -/
  | store (e : StoreError)
  /-- A fault that was reported in words. -/
  | reported (text : String)
  deriving DecidableEq, Repr

/-- The wording of a fault of storage. -/
def StorageFault.message : StorageFault → String
  | contention identity rounds =>
    identity.shown ++ ": no commit after " ++ Nat.repr rounds ++ " CAS rounds"
  | store e => e.message
  | reported text => text

/-- Why the registry did not answer a request. -/
inductive NoAnswer
  /-- Every attempt failed; the last one for the given reason. -/
  | exhausted (attempts : Nat) (last : RegistryError)
  /-- A fault that was reported in words. -/
  | reported (text : String)

/-- The wording of a fault of the registry. -/
def NoAnswer.message : NoAnswer → String
  | exhausted attempts last => Nat.repr attempts ++ " attempts: " ++ last.message
  | reported text => text

/-- Why an operation fails. -/
inductive ServiceError
  /-- What the caller gave is wrong. -/
  | validation (e : InputError)
  /-- The status does not permit the event. -/
  | violation (v : Violation)
  /-- The pair is registered otherwise. -/
  | conflict (identity : Identity)
  /-- There is no such registration. -/
  | notFound (identity : Identity)
  /-- The challenge cannot be answered. -/
  | decryption (e : ChallengeError)
  /-- The registry did not answer. -/
  | noAnswer (e : NoAnswer)
  /-- A record has another version than expected. -/
  | versionConflict (expected actual : Nat)
  /-- There are no keys for the name. -/
  | keyNotFound (keyId : String)
  /-- A key is wrong. -/
  | crypto (e : KeyError)
  /-- The store failed. -/
  | storage (e : StorageFault)

namespace ServiceError

/-- The wording of the error. -/
def message : ServiceError → String
  | validation e => "Validation error: " ++ e.message
  | violation v =>
    "Protocol violation: " ++ v.event.shown ++ " not permitted from " ++ v.source.name
  | conflict identity => "Conflicting registration for " ++ identity.shown
  | notFound identity => "Subscription not found: " ++ identity.shown
  | decryption e => "Challenge decryption failed: " ++ e.message
  | noAnswer e => "Registry unavailable: " ++ e.message
  | versionConflict expected actual =>
    "Version conflict: expected " ++ Nat.repr expected ++ ", found " ++ Nat.repr actual
  | keyNotFound keyId => "Unknown key: " ++ keyId
  | crypto e => "Cryptographic error: " ++ e.message
  | storage e => "Storage error: " ++ e.message

/-- The error that a store's answer becomes. -/
def ofStore : StoreError → ServiceError
  | .notFound identity => notFound identity
  | .alreadyExists identity => conflict identity
  | .versionConflict expected actual => versionConflict expected actual
  | e => storage (.store e)

end ServiceError

end Enrolment
