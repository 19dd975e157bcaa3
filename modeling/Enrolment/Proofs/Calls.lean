import Enrolment.Service.Registration

/-!
# Calls and their verdicts

A call that names its record decides on it as if nothing else went on: what it
comes to is a function of the stored record, the stored keyset, the time, and,
for the end of a round, of what the registry said.  The verdict is that
function, without asks and without the store.

## Main definitions

* `Service.Call`, `Service.Call.operation` — what is asked of the service, and
  the rounds.
* `Verdict` — the result of a call and the record that it writes.
* `Change.verdict` — what a change of a record comes to.
* `Service.Call.verdict` — what a call comes to.

## Main statements

* `Service.Call.clean_verdict` — a call that fails writes nothing.
-/

namespace Enrolment

/-! ## Calls -/

/-- What is asked of the service, and the rounds that it starts. -/
inductive Service.Call
  /-- Make a registration. -/
  | create (identity : Identity) (role : String) (payload : Payload)
  /-- Replace a registration that failed. -/
  | update (identity : Identity) (role : String) (payload : Payload)
  /-- Answer a challenge of the registry. -/
  | answerChallenge (subscriberId : String) (keyId : Option String) (challenge : String)
  /-- Follow a status that the registry pushed. -/
  | pushStatus (identity : Identity) (status : String)
  /-- Look at a registration. -/
  | get (identity : Identity)
  /-- Count the records. -/
  | readiness
  /-- Start the rounds that are due. -/
  | resume
  /-- Ask the registry for the registration of a record. -/
  | register (r : Record) (kind : RoundKind)

namespace Service.Call

/-- What a call ends with if it does not fail. -/
@[reducible] def Result : Service.Call → Type
  | create .. | update .. | pushStatus .. | get _ | register .. => Record
  | answerChallenge .. => String
  | readiness => List (Status × Nat)
  | resume => Nat

/-- What a call does. -/
def operation (s : Service) : (c : Service.Call) → Operation c.Result
  | create identity role payload => Service.create identity role payload
  | update identity role payload => Service.update identity role payload
  | answerChallenge subscriberId keyId challenge => s.answerChallenge subscriberId keyId challenge
  | pushStatus identity status => Service.pushStatus identity status
  | get identity => Service.get identity
  | readiness => Service.readiness
  | resume => Service.resume
  | register r kind => s.register r kind

/-- The call is a round. -/
def isRound : Service.Call → Bool
  | register .. => true
  | _ => false

/-- The identity that the call names. -/
def subject? : Service.Call → Option Identity
  | create identity .. | update identity .. | pushStatus identity _ | get identity => some identity
  | answerChallenge subscriberId keyId _ => keyId.map fun keyId => ⟨subscriberId, keyId⟩
  | register r _ => some r.identity
  | readiness | resume => none

end Service.Call

/-! ## Verdicts -/

/-- What a call comes to. -/
structure Verdict (α : Type) where
  /-- Its result. -/
  result : Except ServiceError α
  /-- The record that it writes. -/
  written : Option Record

namespace Verdict

variable {α β : Type}

/-- An error, and nothing written. -/
def fails (e : ServiceError) : Verdict α := ⟨.error e, none⟩

/-- A result, and nothing written. -/
def keeps (a : α) : Verdict α := ⟨.ok a, none⟩

/-- The record that is written. -/
def writes (r : Record) : Verdict Record := ⟨.ok r, some r⟩

/-- Go on with a result that is known, or fail with its error. -/
def after {ε : Type} (f : ε → ServiceError) : Except ε α → (α → Verdict β) → Verdict β
  | .ok a, next => next a
  | .error e, _ => fails (f e)

/-- Go on with what is stored, or fail without it. -/
def given (e : ServiceError) : Option α → (α → Verdict β) → Verdict β
  | some a, next => next a
  | none, _ => fails e

@[simp] theorem after_ok {ε : Type} {f : ε → ServiceError} {next : α → Verdict β} (a : α) :
    after f (.ok a) next = next a := rfl

@[simp] theorem after_error {ε : Type} {f : ε → ServiceError} {next : α → Verdict β} (e : ε) :
    after f (.error e) next = fails (f e) := rfl

@[simp] theorem given_some {e : ServiceError} {next : α → Verdict β} (a : α) :
    given e (some a) next = next a := rfl

@[simp] theorem given_none {e : ServiceError} {next : α → Verdict β} :
    given e none next = fails e := rfl

end Verdict

/-- What a change of the record of an identity comes to. -/
def Change.verdict (i : Identity) (change : Change) (now : Moment) (stored : Option Record) :
    Verdict Record :=
  .given (.notFound i) stored fun current => .after id (change now current) fun
    | none => .keeps current
    | some next => .writes { next with version := current.version + 1 }

/-- The change that a round makes in the end, given what its calls came to. -/
def ending (r : Record) : Except GiveUp Ack → Except NoAnswer Change
  | .ok ack => .ok (inRound r.version (acknowledge ack))
  | .error (.definitive _) => .ok (inRound r.version (follow .rejected))
  | .error (.exhausted attempts e) => .error (.exhausted attempts e)

/-- The answer to a challenge, given the keyset of the key that it was sealed
for. -/
def Challenge.answerWith (keys : Keyset) (registryKey challenge : String) :
    Except ServiceError String :=
  if Text.allBlank challenge then .error (.validation (.blank .challenge))
  else match (keys.openFrom challenge registryKey).mapError asUnanswered with
    | .error e => .error e
    | .ok answer => if answer = "" then .error (.decryption .emptyAnswer) else .ok answer

namespace Verdict

/-- What making a registration comes to. -/
def create (i : Identity) (role : String) (payload : Payload) (now : Moment)
    (stored : Option Record) : Verdict Record :=
  .after .validation (Record.make i role payload now) fun fresh =>
    match stored with
    | none => .writes { fresh with version := 1 }
    | some existing =>
      if existing.sameRegistration role payload then .keeps existing else .fails (.conflict i)

/-- What replacing a registration comes to. -/
def update (i : Identity) (role : String) (payload : Payload) (now : Moment)
    (stored : Option Record) : Verdict Record :=
  .after .validation (checkRole role) fun _ =>
    .after .validation payload.check fun _ => (makeAgain role payload).verdict i now stored

/-- What answering a challenge comes to. -/
def answerChallenge (s : Service) (i : Identity) (challenge : String) (now : Moment)
    (stored : Option Record) (keys : Option Keyset) : Verdict String :=
  .given (.notFound i) stored fun current =>
    .after id (permit current.status .challenged) fun _ =>
      .given (.keyNotFound i.keyId) keys fun keys =>
        .after id (Challenge.answerWith keys s.registryKey challenge) fun answer =>
          let v := (keepAnswer answer).verdict i now stored
          ⟨v.result.map fun _ => answer, v.written⟩

/-- What following a status comes to. -/
def pushStatus (i : Identity) (status : String) (now : Moment) (stored : Option Record) :
    Verdict Record :=
  .given (.validation (.unknownStatus status)) (Status.read? status) fun target =>
    (follow (.pushed target)).verdict i now stored

/-- What the end of a round comes to. -/
def conclude (r : Record) (outcome : Except GiveUp Ack) (now : Moment) (stored : Option Record) :
    Verdict Record :=
  .after .noAnswer (ending r outcome) fun change => change.verdict r.identity now stored

end Verdict

/-- What a call comes to, if it names its record, and if it is no round without
an outcome. -/
def Service.Call.verdict (s : Service) (outcome : Option (Except GiveUp Ack)) (now : Moment)
    (stored : Option Record) (keys : Option Keyset) :
    (c : Service.Call) → Option (Verdict c.Result)
  | create i role payload => some (.create i role payload now stored)
  | update i role payload => some (.update i role payload now stored)
  | answerChallenge subscriberId (some keyId) challenge =>
    some (.answerChallenge s ⟨subscriberId, keyId⟩ challenge now stored keys)
  | pushStatus i status => some (.pushStatus i status now stored)
  | get i => some (.given (.notFound i) stored .keeps)
  | register r _ => outcome.map fun outcome => .conclude r outcome now stored
  | answerChallenge _ none _ | readiness | resume => none

/-! ## Failures -/

namespace Verdict

/-- A failure writes nothing. -/
def Clean {α : Type} (v : Verdict α) : Prop := ∀ e, v.result = .error e → v.written = none

variable {α β : Type}

theorem clean_fails {e : ServiceError} : (fails e : Verdict α).Clean := fun _ _ => rfl

theorem clean_keeps {a : α} : (keeps a).Clean := fun _ _ => rfl

theorem clean_writes {r : Record} : (writes r).Clean := fun _ he => by cases he

theorem Clean.after {ε : Type} {f : ε → ServiceError} {x : Except ε α} {next : α → Verdict β}
    (h : ∀ a, (next a).Clean) : (after f x next).Clean := by
  cases x with
  | ok a => exact h a
  | error e => exact clean_fails

theorem Clean.given {e : ServiceError} {x : Option α} {next : α → Verdict β}
    (h : ∀ a, (next a).Clean) : (given e x next).Clean := by
  cases x with
  | some a => exact h a
  | none => exact clean_fails

/-- A change that fails writes nothing. -/
theorem clean_change {i : Identity} {change : Change} {now : Moment} {stored : Option Record} :
    (change.verdict i now stored).Clean := by
  apply Clean.given
  intro current
  apply Clean.after
  intro decided
  cases decided with
  | none => exact clean_keeps
  | some next => exact clean_writes

theorem clean_create {i : Identity} {role : String} {payload : Payload} {now : Moment}
    {stored : Option Record} : (create i role payload now stored).Clean := by
  apply Clean.after
  intro fresh
  cases stored with
  | none => exact clean_writes
  | some existing =>
    by_cases hsame : existing.sameRegistration role payload = true
    · simp only [hsame, if_true]
      exact clean_keeps
    · simp only [hsame]
      exact clean_fails

theorem clean_answerChallenge {s : Service} {i : Identity} {challenge : String} {now : Moment}
    {stored : Option Record} {keys : Option Keyset} :
    (answerChallenge s i challenge now stored keys).Clean := by
  refine .given fun current => .after fun _ => .given fun keys => .after ?_
  intro answer e he
  cases hres : ((keepAnswer answer).verdict i now stored).result with
  | error e' => exact clean_change e' hres
  | ok _ => simp [hres, Except.map] at he

end Verdict

/-- A call that fails writes nothing. -/
theorem Service.Call.clean_verdict {c : Service.Call} {s : Service}
    {outcome : Option (Except GiveUp Ack)} {now : Moment} {stored : Option Record}
    {keys : Option Keyset} {v : Verdict c.Result}
    (h : c.verdict s outcome now stored keys = some v) : v.Clean := by
  cases c with
  | create =>
    obtain rfl := Option.some.inj h
    exact Verdict.clean_create
  | update =>
    obtain rfl := Option.some.inj h
    exact .after fun _ => .after fun _ => Verdict.clean_change
  | answerChallenge subscriberId keyId challenge =>
    cases keyId with
    | none => cases h
    | some keyId =>
      obtain rfl := Option.some.inj h
      exact Verdict.clean_answerChallenge
  | pushStatus =>
    obtain rfl := Option.some.inj h
    exact .given fun _ => Verdict.clean_change
  | get =>
    obtain rfl := Option.some.inj h
    exact .given fun _ => Verdict.clean_keeps
  | readiness | resume => cases h
  | register r kind =>
    obtain ⟨said, -, rfl⟩ := Option.map_eq_some_iff.1 h
    exact .after fun _ => Verdict.clean_change

/-- Where nothing is stored, keys do not matter. -/
theorem Service.Call.verdict_of_none {c : Service.Call} {s : Service}
    {outcome : Option (Except GiveUp Ack)} {now : Moment} (keys keys' : Option Keyset) :
    c.verdict s outcome now none keys = c.verdict s outcome now none keys' := by
  cases c with
  | answerChallenge subscriberId keyId challenge => cases keyId <;> rfl
  | _ => rfl

end Enrolment
