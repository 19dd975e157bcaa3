import Enrolment.Registry.Error

/-!
# Trying again

A call that fails for a reason that may pass is made again after a pause, a
limited number of times.  The pause grows by a factor with each attempt, up to a
limit, and may be lengthened by up to a quarter at random, so that subscribers
that failed together do not come back together.

## Main definitions

* `Backoff` — how often to try, and how long to pause.
* `Backoff.base`, `Backoff.delay` — the pause after an attempt, without and with
  the random part.
* `GiveUp` — why no further attempt is made.
* `Backoff.run` — make the calls.
-/

namespace Enrolment

/-- How often to try, and how long to pause. -/
structure Backoff where
  /-- The number of attempts; none counts as one. -/
  maxAttempts : Nat
  /-- The first pause, in milliseconds. -/
  initialDelay : Nat
  /-- The longest pause, in milliseconds. -/
  maxDelay : Nat
  /-- The factor from one pause to the next. -/
  multiplier : Float
  /-- Pauses are lengthened at random. -/
  jitter : Bool

/-- Why no further attempt is made. -/
inductive GiveUp
  /-- Every attempt failed; the last one for the given reason. -/
  | exhausted (attempts : Nat) (last : RegistryError)
  /-- Trying again would not help. -/
  | definitive (e : RegistryError)

/-- The wording of giving up. -/
def GiveUp.message : GiveUp → String
  | exhausted attempts last =>
    "gave up after " ++ Nat.repr attempts ++ " attempts: " ++ last.message
  | definitive e => e.message

namespace Backoff

/-- Five attempts, with pauses from half a second to half a minute that
double. -/
def standard : Backoff := ⟨5, 500, 30000, 2.0, true⟩

/-- A power by repeated squaring, onto the factors found so far; the exponent
has fewer bits than the first argument tells. -/
def powerOnto : (bits : Nat) → (found factor : Float) → (exponent : Nat) → Float
  | 0, found, _, _ => found
  | bits + 1, found, factor, exponent =>
    let found := if exponent % 2 = 1 then found * factor else found
    if exponent / 2 = 0 then found else powerOnto bits found (factor * factor) (exponent / 2)

/-- The power of a factor to an exponent below `2 ^ 31`; a larger one counts as
the largest of these. -/
def power (factor : Float) (exponent : Nat) : Float :=
  powerOnto 31 1.0 factor (min exponent (Text.maxUnsigned 31))

/-- The pause after an attempt without its random part, in milliseconds.  A
pause that is no number or negative is none. -/
def base (b : Backoff) (attempt : Nat) : Nat :=
  let millis := Float.ofNat b.initialDelay * power b.multiplier (attempt - 1)
  let limit := Float.ofNat b.maxDelay
  if millis.isNaN || millis < 0.0 then 0
  else (if millis < limit then millis else limit).toUInt64.toNat

/-- The most by which a pause is lengthened. -/
def maxJitter (b : Backoff) (attempt : Nat) : Nat := if b.jitter then b.base attempt / 4 else 0

/-- The pause after an attempt, lengthened by a number that was drawn. -/
def delay (b : Backoff) (attempt drawn : Nat) : Nat :=
  if b.maxJitter attempt = 0 then b.base attempt
  else min (b.base attempt + min drawn (b.maxJitter attempt)) b.maxDelay

section Run

variable {m : Type → Type} [Monad m] {α : Type}

/-- Make calls from the given attempt on, with so many attempts left after it. -/
def runFrom (pause : (attempt : Nat) → m Unit) (call : (attempt : Nat) → m (Except RegistryError α))
    (attempt : Nat) : (left : Nat) → m (Except GiveUp α)
  | 0 => do
    match ← call attempt with
    | .ok a => return .ok a
    | .error e =>
      return .error (if e.isRetryable then .exhausted attempt e else .definitive e)
  | left + 1 => do
    match ← call attempt with
    | .ok a => return .ok a
    | .error e =>
      if e.isRetryable then
        pause attempt
        runFrom pause call (attempt + 1) left
      else return .error (.definitive e)

/-- Make calls until one succeeds, one fails for good, or no attempts are left. -/
def run (b : Backoff) (pause : (attempt : Nat) → m Unit)
    (call : (attempt : Nat) → m (Except RegistryError α)) : m (Except GiveUp α) :=
  runFrom pause call 1 (b.maxAttempts - 1)

end Run

end Backoff

end Enrolment
