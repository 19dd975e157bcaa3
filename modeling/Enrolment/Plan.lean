import Enrolment.Registry.Request
import Enrolment.Store

/-!
# Plans

An operation of the subscriber is a plan: it asks its surroundings for one thing
at a time, and goes on with the answer.  Between two asks anything may happen, so
a plan shows exactly where operations that run together can meet.  What the
surroundings are is left open.

## Main definitions

* `Ask`, `Ask.Reply` — what a plan asks for, and the answers it may get.
* `Plan` — a plan that ends with a value.
* `Operation` — a plan that may end with an error.
* `Plan.runIn` — carry out a plan in surroundings that may fail to answer.
-/

namespace Enrolment

/-- What a plan asks of its surroundings. -/
inductive Ask
  /-- The stored record of an identity. -/
  | lookup (identity : Identity)
  /-- To store a new record. -/
  | insert (r : Record)
  /-- To replace a record that still has the expected version. -/
  | replace (r : Record) (expected : Nat)
  /-- The stored records of a subscriber. -/
  | ofSubscriber (subscriberId : String)
  /-- The stored records with a status. -/
  | withStatus (status : Status)
  /-- The stored keyset of a key. -/
  | storedKeys (keyId : String)
  /-- To store a keyset unless there is one. -/
  | offerKeys (keyId : String) (keys : Keyset)
  /-- The keyset of a key that is at hand. -/
  | keysAtHand (keyId : String)
  /-- To keep a keyset at hand. -/
  | keepKeys (keyId : String) (keys : Keyset)
  /-- A keyset that nobody has seen before. -/
  | freshKeys
  /-- A name that nobody has used before. -/
  | freshName
  /-- The time. -/
  | clock
  /-- A number up to a bound, at random. -/
  | chance (bound : Nat)
  /-- To wait for some milliseconds. -/
  | pause (millis : Nat)
  /-- The registry's answer to a request. -/
  | call (request : Request) (authorization : Option String)
  /-- To start a round for a record. -/
  | schedule (r : Record) (kind : RoundKind)

/-- The answers to what a plan asks. -/
@[reducible] def Ask.Reply : Ask → Type
  | lookup _ | insert _ | replace .. => Except StoreError Record
  | ofSubscriber _ | withStatus _ => Except StoreError (List Record)
  | storedKeys _ => Except StoreError (Option Keyset)
  | offerKeys .. => Except StoreError Keyset
  | keysAtHand _ => Option Keyset
  | freshKeys => Keyset
  | freshName => String
  | clock => Moment
  | chance _ => Nat
  | keepKeys .. | pause _ | schedule .. => Unit
  | call .. => Except RegistryError Ack

/-- A plan that ends with a value. -/
inductive Plan (α : Type) : Type
  /-- End. -/
  | done (a : α)
  /-- Ask, and go on with the answer. -/
  | step (ask : Ask) (next : ask.Reply → Plan α)

namespace Plan

variable {α β : Type}

/-- One plan after another. -/
def andThen : Plan α → (α → Plan β) → Plan β
  | done a, f => f a
  | step ask next, f => step ask fun reply => (next reply).andThen f

instance : Monad Plan where
  pure := done
  bind := andThen

@[simp] theorem done_bind (a : α) (f : α → Plan β) : done a >>= f = f a := rfl

@[simp] theorem step_bind (ask : Ask) (next : ask.Reply → Plan α) (f : α → Plan β) :
    step ask next >>= f = step ask fun reply => next reply >>= f := rfl

theorem andThen_done (p : Plan α) : p.andThen done = p := by
  induction p with
  | done a => rfl
  | step ask next ih => simp [andThen, ih]

theorem andThen_assoc {γ : Type} (p : Plan α) (f : α → Plan β) (g : β → Plan γ) :
    (p.andThen f).andThen g = p.andThen fun a => (f a).andThen g := by
  induction p with
  | done a => rfl
  | step ask next ih => simp [andThen, ih]

instance : LawfulMonad Plan := LawfulMonad.mk' Plan andThen_done (fun _ _ => rfl) andThen_assoc

/-- Ask for one thing. -/
def ask (a : Ask) : Plan a.Reply := step a done

/-- Carry out a plan.  Surroundings that do not answer leave it unfinished. -/
def runIn {σ : Type} (answer : (a : Ask) → σ → Option a.Reply × σ) : Plan α → σ → Option α × σ
  | done a, s => (some a, s)
  | step a next, s =>
    match answer a s with
    | (some reply, s) => (next reply).runIn answer s
    | (none, s) => (none, s)

end Plan

/-- A plan that may end with an error. -/
abbrev Operation (α : Type) := ExceptT ServiceError Plan α

namespace Operation

variable {α : Type}

/-- Ask for one thing. -/
def ask (a : Ask) : Operation a.Reply := ExceptT.lift (Plan.ask a)

/-- Go on with a result, or end with its error. -/
def ofExcept {ε : Type} (f : ε → ServiceError) : Except ε α → Operation α
  | .ok a => pure a
  | .error e => throw (f e)

/-- Go on with what the store answered, or end with the error that it becomes. -/
def ofStore (r : Except StoreError α) : Operation α := ofExcept .ofStore r

end Operation

end Enrolment
