import Enrolment.Json.Reading
import Enrolment.Text.Split

/-!
# Statuses

A registration has one of six statuses.  A document names a status exactly; a
person or a peer that pushes one may pad the name and write it in any case.

## Main definitions

* `Status`, `Status.all` — the statuses, in the order in which they are listed.
* `Status.name`, `Status.ofName?`, `Status.read?` — the name of a status, and
  the status of a name, exact or lenient.
* `Status.acceptsChallenge`, `Status.acceptsReRegistration`, `Status.isPushable`,
  `Status.isTerminal` — what may happen to a registration with the status.
-/

namespace Enrolment

/-- The status of a registration. -/
inductive Status
  /-- The intent is stored and the registry has not taken it up yet. -/
  | initiated
  /-- The registry has taken it up and challenges the subscriber. -/
  | underSubscription
  /-- The registry lists the subscriber. -/
  | subscribed
  /-- The registry found the certificate of a listed subscriber invalid. -/
  | invalidSsl
  /-- The registry lists the subscriber no more. -/
  | unsubscribed
  /-- The registry refused the registration. -/
  | invalid
  deriving DecidableEq, Repr

namespace Status

/-- The statuses in the order in which they are listed. -/
def all : List Status :=
  [initiated, underSubscription, subscribed, invalidSsl, unsubscribed, invalid]

theorem mem_all (s : Status) : s ∈ all := by cases s <;> decide

/-- The name of a status. -/
def name : Status → String
  | initiated => "INITIATED"
  | underSubscription => "UNDER_SUBSCRIPTION"
  | subscribed => "SUBSCRIBED"
  | invalidSsl => "INVALID_SSL"
  | unsubscribed => "UNSUBSCRIBED"
  | invalid => "INVALID"

/-- The status with exactly this name. -/
def ofName? (s : String) : Option Status := all.find? (·.name == s)

@[simp] theorem ofName?_name (s : Status) : ofName? s.name = some s := by cases s <;> decide

/-- The status that a text names, which may be padded and in any case. -/
def read? (s : String) : Option Status :=
  all.find? fun status => Text.sameIgnoringCase status.name (Text.trimmed s)

/-- A challenge of the registry may be answered. -/
def acceptsChallenge : Status → Bool
  | initiated | underSubscription => true
  | _ => false

/-- The registration may be replaced and made again. -/
def acceptsReRegistration : Status → Bool
  | invalidSsl | invalid => true
  | _ => false

/-- The registry may push the status. -/
def isPushable : Status → Bool
  | subscribed | invalid | invalidSsl | unsubscribed => true
  | _ => false

/-- Nothing happens to the registration any more. -/
def isTerminal : Status → Bool
  | unsubscribed => true
  | _ => false

/-! ## In documents -/

/-- The value that stands for a status in a document. -/
def toJson (s : Status) : Json.Value := .text s.name

/-- The status with the name, as a document gives it. -/
def named (s : String) : Except Json.ReadError Status :=
  match ofName? s with
  | some status => .ok status
  | none => .error (.mismatch [] (.unknownVariant s (all.map name)))

/-- A status in a document: its name, or an object with one member of that name
whose value is null. -/
def reader : Json.Reader Status
  | _, .text (some s) => named s
  | depth, .object members closed => do
    if Json.maxDepth ≤ depth then throw .malformed
    match members with
    | (some s, t) :: rest =>
      let status ← named s
      match t with
      | .null => if rest.isEmpty && closed then return status else throw .malformed
      | t => Json.refuse "unit" t
    | _ => throw .malformed
  | _, _ => .error .malformed

end Status

end Enrolment
