import Mathlib.Data.List.Forall2

/-!
# Steps that may fail

What becomes of steps that are taken one after the other, as far as the first
one that fails.

## Main statements

* `bind_eq_ok_iff` — two steps that succeed together succeed both.
* `mapM_eq_ok_iff`, `exists_mapM_eq_error_iff` — a step for every entry of a list.
-/

namespace Enrolment

variable {ε α β : Type}

theorem ok_bind (a : α) (f : α → Except ε β) : (Except.ok a >>= f) = f a := rfl

/-- Two steps that succeed together succeed both. -/
theorem bind_eq_ok_iff {x : Except ε α} {f : α → Except ε β} {b : β} :
    (x >>= f) = .ok b ↔ ∃ a, x = .ok a ∧ f a = .ok b := by
  cases x with
  | error e =>
    constructor
    · intro h
      cases h
    · rintro ⟨a, h, -⟩
      cases h
  | ok a => simp [ok_bind]

variable {f : α → Except ε β} {xs : List α} {ys : List β}

/-- All steps succeed together if each of them does. -/
theorem mapM_eq_ok_iff : xs.mapM f = .ok ys ↔ List.Forall₂ (fun x y => f x = .ok y) xs ys := by
  induction xs generalizing ys with
  | nil =>
    rw [List.mapM_nil, List.forall₂_nil_left_iff]
    exact ⟨fun h => (Except.ok.inj h).symm, fun h => h ▸ rfl⟩
  | cons x xs ih =>
    simp only [List.mapM_cons, bind_eq_ok_iff, List.forall₂_cons_left_iff, ih]
    constructor
    · rintro ⟨y, hy, rest, hrest, h⟩
      exact ⟨y, rest, hy, hrest, (Except.ok.inj h).symm⟩
    · rintro ⟨y, rest, hy, hrest, rfl⟩
      exact ⟨y, hy, rest, hrest, rfl⟩

/-- They fail together if one of them does. -/
theorem exists_mapM_eq_error_iff : (∃ e, xs.mapM f = .error e) ↔ ∃ x ∈ xs, ∃ e, f x = .error e := by
  induction xs with
  | nil =>
    refine iff_of_false ?_ (by simp)
    rintro ⟨e, h⟩
    cases h
  | cons x xs ih =>
    rw [List.mapM_cons, List.exists_mem_cons_iff]
    cases hx : f x with
    | error e => exact iff_of_true ⟨e, rfl⟩ (.inl ⟨e, rfl⟩)
    | ok y =>
      rw [ok_bind, ← ih]
      cases xs.mapM f with
      | error e => exact iff_of_true ⟨e, rfl⟩ (.inr ⟨e, rfl⟩)
      | ok rest => exact iff_of_false (by rintro ⟨e, h⟩; cases h) (by simp)

end Enrolment
