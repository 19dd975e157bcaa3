import Enrolment.Registry.Backoff
import Mathlib.Data.Nat.Basic

/-!
# Attempts

A call that is tried again ends with the first answer that is no reason to try
again, or when no attempts are left.  The attempts have numbers from one on, and
each but the last is followed by the pause of its number.

## Main definitions

* `Backoff.decisive` — an answer that ends the attempts.
* `Backoff.retries`, `Backoff.last`, `Backoff.said` — how often a call is made
  again, the number of the last attempt, and what it comes to.
* `Backoff.LastAttempt` — which attempt is the last one.

## Main statements

* `Backoff.lastAttempt` — the number of the last attempt is right.
* `Backoff.run_eq` — the attempts are numbered.
-/

namespace Enrolment.Backoff

variable {α : Type} {heard : Nat → Except RegistryError α} {left : Nat}

/-- The answer is no reason to try again. -/
def decisive : Except RegistryError α → Bool
  | .ok _ => true
  | .error e => !e.isRetryable

/-- How often a call is made again that hears these answers, with so many attempts
left after the first one. -/
def retries (heard : Nat → Except RegistryError α) : (left : Nat) → Nat
  | 0 => 0
  | left + 1 => if decisive (heard 0) then 0 else retries (fun n => heard (n + 1)) left + 1

/-- The number of the last attempt. -/
def last (b : Backoff) (heard : Nat → Except RegistryError α) : Nat :=
  retries heard (b.maxAttempts - 1) + 1

/-- What the last attempt comes to. -/
def said (attempt : Nat) : Except RegistryError α → Except GiveUp α
  | .ok a => .ok a
  | .error e => .error (if e.isRetryable then .exhausted attempt e else .definitive e)

theorem said_definitive {attempt : Nat} {e : RegistryError} (h : e.isRetryable = false) :
    said (α := α) attempt (.error e) = .error (.definitive e) := by
  simp [said, h]

theorem said_exhausted {attempt : Nat} {e : RegistryError} (h : e.isRetryable = true) :
    said (α := α) attempt (.error e) = .error (.exhausted attempt e) := by
  simp [said, h]

/-- The attempt is the last one: its answer is the first that is decisive, or no
attempts are left after it.  Attempts are counted from one on, answers from
zero. -/
structure LastAttempt (b : Backoff) (heard : Nat → Except RegistryError α) (last : Nat) : Prop where
  /-- At least one attempt is made. -/
  pos : 1 ≤ last
  /-- There are no more attempts than allowed. -/
  le : last ≤ max 1 b.maxAttempts
  /-- No answer before was decisive. -/
  before (n : Nat) (hn : n + 1 < last) : decisive (heard n) = false
  /-- The answer is decisive, or it is the last attempt that is allowed. -/
  ends : decisive (heard (last - 1)) = true ∨ last = max 1 b.maxAttempts

theorem retries_of_decisive (h : decisive (heard 0) = true) : retries heard left = 0 := by
  cases left with
  | zero => rfl
  | succ left => rw [retries, if_pos h]

theorem retries_succ (h : decisive (heard 0) = false) :
    retries heard (left + 1) = retries (fun n => heard (n + 1)) left + 1 := by
  rw [retries, h]
  exact if_neg Bool.false_ne_true

theorem retries_le : retries heard left ≤ left := by
  induction left generalizing heard with
  | zero => exact Nat.le_refl 0
  | succ left ih =>
    cases h : decisive (heard 0) with
    | true =>
      rw [retries_of_decisive h]
      exact Nat.zero_le _
    | false =>
      rw [retries_succ h]
      exact Nat.succ_le_succ ih

/-- As long as a call is made again, no answer was decisive. -/
theorem decisive_of_lt {n : Nat} (hn : n < retries heard left) : decisive (heard n) = false := by
  induction left generalizing heard n with
  | zero => cases hn
  | succ left ih =>
    cases h : decisive (heard 0) with
    | true =>
      rw [retries_of_decisive h] at hn
      cases hn
    | false =>
      rw [retries_succ h] at hn
      cases n with
      | zero => exact h
      | succ n => exact @ih (fun n => heard (n + 1)) n (Nat.lt_of_add_lt_add_right hn)

/-- In the end an answer is decisive, or no attempts are left. -/
theorem decisive_retries :
    decisive (heard (retries heard left)) = true ∨ retries heard left = left := by
  induction left generalizing heard with
  | zero => exact .inr rfl
  | succ left ih =>
    cases h : decisive (heard 0) with
    | true =>
      rw [retries_of_decisive h]
      exact .inl h
    | false =>
      rw [retries_succ h]
      exact (@ih fun n => heard (n + 1)).imp id (congrArg Nat.succ)

/-- The last attempt is the one after which the call is not made again. -/
theorem lastAttempt (b : Backoff) (heard : Nat → Except RegistryError α) :
    b.LastAttempt heard (b.last heard) where
  pos := Nat.succ_le_succ (Nat.zero_le _)
  le := by
    have hle : retries heard (b.maxAttempts - 1) ≤ b.maxAttempts - 1 := retries_le
    unfold last
    omega
  before n hn := decisive_of_lt (Nat.lt_of_add_lt_add_right hn)
  ends := decisive_retries.imp id fun heq => by
    unfold last
    omega

/-! ## Numbers -/

section Numbers

variable {m : Type → Type} [Monad m] {call : (attempt : Nat) → m (Except RegistryError α)}
  {make pause : (attempt : Nat) → m Unit} {attempt : Nat}

/-- The last attempt that is allowed. -/
theorem runFrom_zero : runFrom pause call attempt 0 = (do
    let answer ← call attempt
    return said attempt answer) := by
  rw [runFrom]
  congr
  funext answer
  cases answer <;> rfl

/-- An attempt that others may follow. -/
theorem runFrom_succ : runFrom pause call attempt (left + 1) = (do
    let answer ← call attempt
    if decisive answer then return said attempt answer
    else
      pause attempt
      runFrom pause call (attempt + 1) left) := by
  rw [runFrom]
  congr
  funext answer
  cases answer with
  | ok a => rfl
  | error e => cases he : e.isRetryable <;> simp [decisive, said, he]

theorem runFrom_eq [LawfulMonad m] (told : (attempt : Nat) → Except RegistryError α)
    (attempt left : Nat) : runFrom pause (fun n => do make n; return told n) attempt left = (do
      forM (List.range' attempt (retries (fun n => told (attempt + n)) left)) fun n => do
        make n
        pause n
      make (attempt + retries (fun n => told (attempt + n)) left)
      return said (attempt + retries (fun n => told (attempt + n)) left)
        (told (attempt + retries (fun n => told (attempt + n)) left))) := by
  induction left generalizing attempt with
  | zero => simp only [runFrom_zero, bind_assoc, pure_bind, retries, Nat.add_zero,
      List.range'_zero, List.forM_nil]
  | succ left ih =>
    simp only [runFrom_succ, bind_assoc, pure_bind]
    cases hd : decisive (told attempt) with
    | true =>
      rw [@retries_of_decisive _ (fun n => told (attempt + n)) _ hd]
      simp only [if_true, Nat.add_zero, List.range'_zero, List.forM_nil, pure_bind]
    | false =>
      -- what is told from the next attempt on
      have hnext : (fun n => told (attempt + (n + 1))) = fun n => told (attempt + 1 + n) := by
        funext n
        rw [Nat.add_assoc, Nat.add_comm 1 n]
      rw [@retries_succ _ (fun n => told (attempt + n)) _ hd, hnext]
      simp only [Bool.false_eq_true, if_false, ih (attempt + 1), List.range'_succ, List.forM_cons,
        bind_assoc, ← Nat.add_assoc, Nat.add_right_comm attempt _ 1]

/-- **The attempts are numbered.**  They are made in the order of their numbers, from
one to the last, with the pause of its number after each but the last. -/
theorem run_eq [LawfulMonad m] (b : Backoff) (heard : Nat → Except RegistryError α) :
    b.run pause (fun n => do make n; return heard (n - 1)) = (do
      forM (List.range' 1 (b.last heard - 1)) fun n => do
        make n
        pause n
      make (b.last heard)
      return said (b.last heard) (heard (b.last heard - 1))) := by
  have hheard : (fun n => heard (1 + n - 1)) = heard := by
    funext n
    rw [Nat.add_sub_cancel_left]
  rw [run, runFrom_eq, hheard, last, Nat.add_comm 1]
  rfl

end Numbers

end Enrolment.Backoff
