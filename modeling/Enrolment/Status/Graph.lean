import Enrolment.Status

/-!
# The status graph

What happens to a registration is an event, and the graph says what the event
makes of a status: it moves on, it stays because the event comes late or tells
nothing new, or the event violates the protocol.

The moves are also listed as a relation, edge by edge.

## Main definitions

* `Event`, `Event.shown` — the events, and their wording.
* `react` — what an event makes of a status.
* `Violation` — an event that a status does not permit.
* `Edge` — the edges of the graph.
-/

namespace Enrolment

/-- What happens to a registration. -/
inductive Event
  /-- The registry took up the request. -/
  | accepted
  /-- The registry refused the request for good. -/
  | rejected
  /-- The registry sent a challenge. -/
  | challenged
  /-- The registry pushed a status. -/
  | pushed (target : Status)
  /-- The subscriber makes the registration again. -/
  | reRegistered
  deriving DecidableEq, Repr

/-- The wording of an event. -/
def Event.shown : Event → String
  | accepted => "registry accept"
  | rejected => "registry reject"
  | challenged => "on_subscribe challenge"
  | pushed target => "status push " ++ target.name
  | reRegistered => "re-registration"

/-- An event that a status does not permit. -/
structure Violation where
  /-- The status. -/
  source : Status
  /-- The event. -/
  event : Event
  deriving DecidableEq, Repr

/-- What an event makes of a status that permits it. -/
inductive Outcome
  /-- The registration moves on to the status. -/
  | advance (next : Status)
  /-- The registration stays as it is. -/
  | ignore
  deriving DecidableEq, Repr

/-- What an event makes of a status.  The answer of the registry may come late,
after a challenge or a push has moved the registration on, and is then ignored;
so is a push of the status that the registration has. -/
def react (source : Status) (event : Event) : Except Violation Outcome :=
  match source, event with
  | .initiated, .accepted => .ok (.advance .underSubscription)
  | _, .accepted => .ok .ignore
  | .initiated, .rejected => .ok (.advance .invalid)
  | _, .rejected => .ok .ignore
  | .initiated, .challenged | .underSubscription, .challenged => .ok (.advance .underSubscription)
  | .underSubscription, .pushed .subscribed => .ok (.advance .subscribed)
  | .underSubscription, .pushed .invalid => .ok (.advance .invalid)
  | .subscribed, .pushed .unsubscribed => .ok (.advance .unsubscribed)
  | .subscribed, .pushed .invalidSsl => .ok (.advance .invalidSsl)
  | source, .pushed target =>
    if source = target ∧ target.isPushable then .ok .ignore
    else .error ⟨source, .pushed target⟩
  | .invalidSsl, .reRegistered | .invalid, .reRegistered => .ok (.advance .initiated)
  | source, event => .error ⟨source, event⟩

/-- The edges of the graph: a status, the event and the status after it. -/
inductive Edge : Status → Event → Status → Prop
  /-- The registry takes up a new registration. -/
  | accepted : Edge .initiated .accepted .underSubscription
  /-- The registry refuses a new registration. -/
  | rejected : Edge .initiated .rejected .invalid
  /-- A challenge overtakes the answer of the registry. -/
  | firstChallenge : Edge .initiated .challenged .underSubscription
  /-- The registry challenges once more. -/
  | challenge : Edge .underSubscription .challenged .underSubscription
  /-- The registry lists the subscriber. -/
  | subscribed : Edge .underSubscription (.pushed .subscribed) .subscribed
  /-- The registry refuses the subscriber after the challenge. -/
  | invalidated : Edge .underSubscription (.pushed .invalid) .invalid
  /-- The registry strikes the subscriber off its list. -/
  | unsubscribed : Edge .subscribed (.pushed .unsubscribed) .unsubscribed
  /-- The registry finds the certificate of the subscriber invalid. -/
  | certificateInvalidated : Edge .subscribed (.pushed .invalidSsl) .invalidSsl
  /-- The registration is made again after its certificate was found invalid. -/
  | certificateRenewed : Edge .invalidSsl .reRegistered .initiated
  /-- The registration is made again after it was refused. -/
  | reRegistered : Edge .invalid .reRegistered .initiated

/-- The graph moves a status along its edges and along no other way. -/
theorem react_eq_advance_iff {source next : Status} {event : Event} :
    react source event = .ok (.advance next) ↔ Edge source event next := by
  constructor
  · intro h
    cases source <;> cases event <;> try cases ‹Status›
    all_goals
      simp only [react, Status.isPushable, reduceCtorEq, Except.ok.injEq, Outcome.advance.injEq,
        and_false, and_true, if_false, if_true, and_self, Bool.false_eq_true] at h
      try subst h
      try constructor
  · intro h; cases h <;> rfl

end Enrolment
