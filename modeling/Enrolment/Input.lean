import Enrolment.Record

/-!
# What callers may give

Everything that reaches the subscriber from outside is checked before it is
stored.  A check fails with the first fault, in a fixed order: the identity, the
type, the address, the domain, and last the period.

Identities may not hold a bar, since the bar separates them in the header of a
signed request.

## Main definitions

* `InputError` — the faults of what callers give, and `message` for their
  wording.
* `Identity.check`, `checkRole`, `Payload.check` — the checks.
* `Record.make` — a new record of checked parts.
-/

namespace Enrolment

/-- A text that a caller gives. -/
inductive Field
  /-- The subscriber of an identity. -/
  | subscriberId
  /-- The key of an identity. -/
  | keyId
  /-- The type of a subscriber. -/
  | role
  /-- The domain of a payload. -/
  | domain
  /-- The challenge of the registry. -/
  | challenge
  deriving DecidableEq, Repr

/-- The name of a field. -/
def Field.name : Field → String
  | subscriberId => "subscriber_id"
  | keyId => "key_id"
  | role => "type"
  | domain => "domain"
  | challenge => "challenge"

/-- What is wrong with the header of a signed request. -/
inductive HeaderError
  /-- It does not name the scheme. -/
  | scheme
  /-- A parameter is left out or makes no sense. -/
  | parameter (name : String)
  deriving DecidableEq, Repr

/-- The wording of the error. -/
def HeaderError.message : HeaderError → String
  | scheme => "missing Signature scheme"
  | parameter name => name

/-- What is wrong with something that a caller gave. -/
inductive InputError
  /-- The field is blank. -/
  | blank (field : Field)
  /-- The field is longer than it may be, in bytes. -/
  | tooLong (field : Field) (most : Nat)
  /-- The field holds a bar. -/
  | bar (field : Field)
  /-- The address is none of the web. -/
  | relativeUrl (url : String)
  /-- The address names no host, or holds a blank character. -/
  | malformedUrl (url : String)
  /-- The period ends before it starts. -/
  | emptyPeriod (start finish : Moment)
  /-- The text names no status. -/
  | unknownStatus (text : String)
  /-- The subscriber has several registrations that a challenge may be for. -/
  | ambiguous (subscriberId : String) (count : Nat)
  /-- The header of a signed request cannot be read. -/
  | header (e : HeaderError)
  /-- The document cannot be read. -/
  | document (e : Json.ReadError)
  /-- A fault that was reported in words. -/
  | reported (text : String)

/-- The wording of the error. -/
def InputError.message : InputError → String
  | blank field => field.name ++ " cannot be empty"
  | tooLong field most => field.name ++ " too long (max " ++ Nat.repr most ++ " chars)"
  | bar field => field.name ++ " cannot contain '|'"
  | relativeUrl url => "url must be absolute http(s): " ++ url
  | malformedUrl url => "url is malformed: " ++ url
  | emptyPeriod start finish =>
    "valid_from (" ++ start.shown ++ ") must precede valid_until (" ++ finish.shown ++ ")"
  | unknownStatus text => "Unknown status: " ++ text
  | ambiguous subscriberId count =>
    "key_id required: " ++ Nat.repr count ++ " pending subscriptions for " ++ subscriberId
  | header e => "invalid signature header: " ++ e.message
  | document e => e.message
  | reported text => text

/-! ## Checks -/

/-- The most bytes of a part of an identity. -/
def maxIdentityLength : Nat := 255

/-- The most bytes of a type. -/
def maxRoleLength : Nat := 64

/-- A field that is not blank and not too long. -/
def checkLength (field : Field) (most : Nat) (s : String) : Except InputError Unit :=
  if Text.allBlank s then .error (.blank field)
  else if most < Text.byteLength s then .error (.tooLong field most)
  else .ok ()

/-- A part of an identity. -/
def checkPart (field : Field) (s : String) : Except InputError Unit := do
  checkLength field maxIdentityLength s
  if '|' ∈ s.toList then throw (.bar field)

/-- An identity that a registration may be for. -/
def Identity.check (i : Identity) : Except InputError Unit := do
  checkPart .subscriberId i.subscriberId
  checkPart .keyId i.keyId

/-- A type that a subscriber may be of. -/
def checkRole (role : String) : Except InputError Unit := checkLength .role maxRoleLength role

/-- What follows the scheme of an address of the web. -/
def afterScheme (cs : List Char) : Option (List Char) :=
  (Text.afterPrefix "https://".toList cs).orElse fun _ => Text.afterPrefix "http://".toList cs

/-- The character ends the host of an address. -/
def endsHost (c : Char) : Bool := c = '/' || c = '?' || c = '#'

/-- An absolute address of the web: a scheme, a host, and no blank characters. -/
def checkUrl (url : String) : Except InputError Unit :=
  match afterScheme url.toList with
  | none => .error (.relativeUrl url)
  | some rest =>
    if (rest.takeWhile fun c => !endsHost c).isEmpty || url.toList.any Text.isBlank then
      .error (.malformedUrl url)
    else .ok ()

/-- A period that starts before it ends, if both ends are given. -/
def checkPeriod : Option Moment → Option Moment → Except InputError Unit
  | some start, some finish =>
    if start.precedes finish then .ok () else .error (.emptyPeriod start finish)
  | _, _ => .ok ()

/-- A payload that may be registered. -/
def Payload.check (p : Payload) : Except InputError Unit := do
  checkUrl p.url
  if Text.allBlank p.domain then throw (.blank .domain)
  checkPeriod p.validFrom p.validUntil

/-- A new record of parts that pass the checks. -/
def Record.make (identity : Identity) (role : String) (payload : Payload) (now : Moment) :
    Except InputError Record := do
  identity.check
  checkRole role
  payload.check
  return .fresh identity role payload now

end Enrolment
