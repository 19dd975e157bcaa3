import Enrolment.Json.Reading

/-!
# What a subscriber registers

Besides its identity and its type a subscriber registers where it is to be
reached, in which domain it takes part, where it stands, and for how long.  The
place is any value of a document; the registry alone looks into it.

## Main definitions

* `Payload` — what is registered.
* `Payload.same` — equality of payloads.
* `Payload.toJson`, `Payload.reader` — the payload in documents.
-/

namespace Enrolment

/-- What a subscriber registers. -/
structure Payload where
  /-- Where the subscriber is to be reached. -/
  url : String
  /-- The domain in which it takes part. -/
  domain : String
  /-- Where it stands, as a value that the registry understands. -/
  location : Option Json.Value
  /-- The moment from which the registration holds. -/
  validFrom : Option Moment
  /-- The moment until which it holds. -/
  validUntil : Option Moment

namespace Payload

/-- A payload of an address and a domain only. -/
def plain (url domain : String) : Payload := ⟨url, domain, none, none, none⟩

/-- The two places are equal values, or both are left out. -/
def sameLocation : Option Json.Value → Option Json.Value → Bool
  | none, none => true
  | some v, some w => v.same w
  | _, _ => false

/-- The two payloads are equal. -/
def same (p q : Payload) : Bool :=
  p.url == q.url && p.domain == q.domain && sameLocation p.location q.location &&
    p.validFrom == q.validFrom && p.validUntil == q.validUntil

/-- A payload is the same as itself, whatever the place. -/
@[simp] theorem same_self (p : Payload) : p.same p = true := by
  cases hl : p.location <;> simp [same, sameLocation, hl]

/-! ## In documents -/

/-- A moment that may be left out, as a member. -/
def momentMember (name : String) (t : Option Moment) : List (String × Json.Value) :=
  Json.Value.optional name (t.map fun t => .text t.text)

/-- The members of a payload in a document. -/
def toMembers (p : Payload) : List (String × Json.Value) :=
  [("url", .text p.url), ("domain", .text p.domain)] ++
    Json.Value.optional "location" p.location ++
    momentMember "valid_from" p.validFrom ++ momentMember "valid_until" p.validUntil

/-- The value that stands for a payload in a document. -/
def toJson (p : Payload) : Json.Value := .object p.toMembers

/-- The members that a document may give. -/
def members : List Json.Member :=
  [.must "url" Json.text, .must "domain" Json.text, .may "location" Json.value,
    .may "valid_from" Json.moment, .may "valid_until" Json.moment]

/-- The payload of the members that a document gave. -/
def ofCells (depth : Nat) : Json.Cells → Except Json.ReadError Payload
  | [url, domain, location, validFrom, validUntil] => do
    return {
      url := ← Json.text.must depth url
      domain := ← Json.text.must depth domain
      location := ← Json.value.may depth location
      validFrom := ← Json.moment.may depth validFrom
      validUntil := ← Json.moment.may depth validUntil }
  | _ => .error .malformed

/-- A payload in a document. -/
def reader : Json.Reader Payload := fun depth t => do
  ofCells (depth + 1) (← Json.struct "RegistrationPayload" members depth t)

end Payload

end Enrolment
