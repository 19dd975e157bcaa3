/-!
# Identities

A subscriber takes part in the network under its own name, and may hold several
keys.  Every key is registered by itself, so a registration belongs to a pair of
a subscriber and a key.

## Main definitions

* `Identity` — the pair.
-/

namespace Enrolment

/-- Whom a registration is for: a subscriber and one of its keys. -/
structure Identity where
  /-- The subscriber. -/
  subscriberId : String
  /-- The key. -/
  keyId : String
  deriving DecidableEq, Repr

namespace Identity

/-- The identity in a message. -/
def shown (i : Identity) : String := i.subscriberId ++ "/" ++ i.keyId

/-- Identities in the order of their subscribers, and of their keys for one
subscriber. -/
def precedes (i j : Identity) : Bool :=
  i.subscriberId < j.subscriberId || (i.subscriberId = j.subscriberId && i.keyId < j.keyId)

end Identity

end Enrolment
