import Enrolment.Authorization
import Enrolment.Plan

/-!
# Keys in use

Keysets are stored, and those in use are kept at hand.  A keyset comes into
being in one place only, when a registration is made for a key that has none; of
two that are made at the same time the first one stored wins.

## Main definitions

* `Keys.find` — the keyset of a key.
* `Keys.ensure` — the public keys of a key, which is given a keyset if it has
  none.
* `Keys.publicKeys`, `Keys.sign`, `Keys.openFrom` — what a keyset is used for.
* `Keys.authorize` — the header of a signed request.
-/

namespace Enrolment.Keys

/-- Keep a keyset at hand. -/
def keep (keyId : String) (keys : Keyset) : Operation Keyset := do
  Operation.ask (.keepKeys keyId keys)
  return keys

/-- The keyset of a key, if it has one. -/
def find? (keyId : String) : Operation (Option Keyset) := do
  match ← Operation.ask (.keysAtHand keyId) with
  | some keys => return some keys
  | none =>
    match ← Operation.ofStore (← Operation.ask (.storedKeys keyId)) with
    | some keys => some <$> keep keyId keys
    | none => return none

/-- The keyset of a key. -/
def find (keyId : String) : Operation Keyset := do
  match ← find? keyId with
  | some keys => return keys
  | none => throw (.keyNotFound keyId)

/-- The public keys of a key, which is given a keyset if it has none. -/
def ensure (keyId : String) : Operation PublicKeys := do
  match ← find? keyId with
  | some keys => return keys.publicKeys
  | none =>
    let fresh ← Operation.ask .freshKeys
    let stored ← Operation.ofStore (← Operation.ask (.offerKeys keyId fresh))
    return (← keep keyId stored).publicKeys

/-- The public keys of a key. -/
def publicKeys (keyId : String) : Operation PublicKeys := Keyset.publicKeys <$> find keyId

/-- The signature of a message. -/
def sign (keyId : String) (message : Bytes) : Operation Bytes := (·.sign message) <$> find keyId

/-- The text that the holder of a public key sealed for the key. -/
def openFrom (keyId blob peer : String) : Operation String := do
  Operation.ofExcept id ((← find keyId).openFrom blob peer)

/-- The header that signs a body at a moment, given in seconds. -/
def authorize (identity : Identity) (body : Bytes) (now : Int) : Operation String := do
  let signature ← sign identity.keyId (Authorization.message now body)
  return (Authorization.make identity now signature).text

end Enrolment.Keys
