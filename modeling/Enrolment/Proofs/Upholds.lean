import Enrolment.Proofs.Chronicle

/-!
# Following a plan

A plan is followed through everything that may be answered, while others do what
they like in between.  It upholds a guarantee if every ask, in every chronicle
in which it may be made, meets the guarantee, and the plan ends with what was
promised.  Rules for sequences let every operation be followed once.

## Main definitions

* `Plan.Upholds` — the plan of a task meets a guarantee and a promise.
* `Operation.Upholds` — the same for a plan that may end with an error.

## Main statements

* `Plan.Upholds.bind`, `Operation.Upholds.bind` — one after another.
* `Plan.Upholds.of_byOthers` — others do no harm.
-/

namespace Enrolment

/-- A guarantee tells of an occurrence what has to hold of what happened
before it. -/
abbrev Guarantee := Occurrence → List Occurrence → Prop

namespace Plan

variable {α β : Type} {task : Task} {G : Guarantee} {Q Q' : α → List Occurrence → Prop}
  {R : β → List Occurrence → Prop} {p : Plan α} {f : α → Plan β} {past past' : List Occurrence}

/-- Whatever others do and whatever is answered, the task meets the guarantee
and ends as promised. -/
def Upholds (task : Task) (G : Guarantee) (Q : α → List Occurrence → Prop) :
    Plan α → List Occurrence → Prop
  | done a, past => Q a past
  | step ask next, past => ∀ past', ByOthers task.number past past' → Chronicle past' →
      ∀ reply, TrueAfter past' ask reply → G (.answered task ask reply) past' ∧
        (next reply).Upholds task G Q (.answered task ask reply :: past')

namespace Upholds

/-- What a plan ends with may be weakened, given that time has passed. -/
theorem mono (h : p.Upholds task G Q past)
    (hQ : ∀ a past', past <:+ past' → Q a past' → Q' a past') : p.Upholds task G Q' past := by
  induction p generalizing past with
  | done a => exact hQ a past List.suffix_rfl h
  | step ask next ih =>
    intro past₁ h₁ c₁ reply ht
    obtain ⟨hg, hnext⟩ := h past₁ h₁ c₁ reply ht
    refine ⟨hg, ih reply hnext fun a past₂ h₂ => hQ a past₂ ?_⟩
    exact h₁.suffix.trans ((List.suffix_cons _ past₁).trans h₂)

/-- One plan after another. -/
theorem bind (h : p.Upholds task G Q past)
    (hf : ∀ a past', past <:+ past' → Q a past' → (f a).Upholds task G R past') :
    (p >>= f).Upholds task G R past := by
  induction p generalizing past with
  | done a => exact hf a past List.suffix_rfl h
  | step ask next ih =>
    intro past₁ h₁ c₁ reply ht
    obtain ⟨hg, hnext⟩ := h past₁ h₁ c₁ reply ht
    refine ⟨hg, ih reply hnext fun a past₂ h₂ => hf a past₂ ?_⟩
    exact h₁.suffix.trans ((List.suffix_cons _ past₁).trans h₂)

/-- What others do in between does no harm to a promise that it does not
break. -/
theorem of_byOthers (h : p.Upholds task G Q past) (ho : ByOthers task.number past past')
    (hQ : ∀ a, Q a past → Q a past') : p.Upholds task G Q past' := by
  cases p with
  | done a => exact hQ a h
  | step ask next => exact fun past₁ h₁ => h past₁ (ho.trans h₁)

/-- An ask is met in every chronicle in which it may be made. -/
theorem ask {a : Ask} {Q : a.Reply → List Occurrence → Prop}
    (h : ∀ past', ByOthers task.number past past' → Chronicle past' → ∀ reply,
      TrueAfter past' a reply → G (.answered task a reply) past' ∧
        Q reply (.answered task a reply :: past')) :
    (Plan.ask a).Upholds task G Q past := h

/-- What stays true is true in the end, whatever the plan. -/
theorem of_stable {F : List Occurrence → Prop} (h : ∀ later, past <:+ later → F later) :
    p.Upholds task (fun _ _ => True) (fun _ => F) past := by
  induction p generalizing past with
  | done a => exact h past List.suffix_rfl
  | step ask next ih =>
    intro past₁ h₁ _ reply _
    refine ⟨trivial, ih reply fun later hs => h later ?_⟩
    exact h₁.suffix.trans ((List.suffix_cons _ past₁).trans hs)

end Upholds

end Plan

namespace Operation

variable {α β : Type} {task : Task} {G : Guarantee} {past : List Occurrence}

@[simp] theorem ofExcept_ok {ε : Type} {f : ε → ServiceError} (a : α) :
    ofExcept f (.ok a) = pure a := rfl

@[simp] theorem ofExcept_error {ε : Type} {f : ε → ServiceError} (e : ε) :
    (ofExcept f (.error e) : Operation α) = throw (f e) := rfl

@[simp] theorem ofStore_ok (a : α) : ofStore (.ok a) = pure a := rfl

@[simp] theorem ofStore_error (e : StoreError) :
    (ofStore (.error e) : Operation α) = throw (.ofStore e) := rfl

@[simp] theorem throw_bind (e : ServiceError) (f : α → Operation β) :
    (throw e : Operation α) >>= f = throw e := rfl

/-- The plan of an operation meets a guarantee and a promise. -/
def Upholds (task : Task) (G : Guarantee) (Q : Except ServiceError α → List Occurrence → Prop)
    (x : Operation α) (past : List Occurrence) : Prop :=
  x.run.Upholds task G Q past

namespace Upholds

variable {Q Q' : Except ServiceError α → List Occurrence → Prop}
  {R : Except ServiceError β → List Occurrence → Prop} {x : Operation α} {f : α → Operation β}

theorem pure {a : α} (h : Q (.ok a) past) : (pure a : Operation α).Upholds task G Q past := h

theorem throw {e : ServiceError} (h : Q (.error e) past) :
    (throw e : Operation α).Upholds task G Q past := h

/-- The plan of an operation. -/
theorem run (h : x.Upholds task G Q past) : x.run.Upholds task G Q past := h

theorem mono (h : x.Upholds task G Q past)
    (hQ : ∀ a past', past <:+ past' → Q a past' → Q' a past') : x.Upholds task G Q' past :=
  Plan.Upholds.mono h hQ

/-- One operation after another; an error ends both. -/
theorem bind (h : x.Upholds task G Q past)
    (hok : ∀ a past', past <:+ past' → Q (.ok a) past' → (f a).Upholds task G R past')
    (herr : ∀ e past', past <:+ past' → Q (.error e) past' → R (.error e) past') :
    (x >>= f).Upholds task G R past := by
  refine Plan.Upholds.bind h ?_
  intro res past' hs hres
  cases res with
  | ok a => exact hok a past' hs hres
  | error e => exact herr e past' hs hres

/-- An ask is met in every chronicle in which it may be made. -/
theorem ask_bind {a : Ask} {f : a.Reply → Operation β}
    (h : ∀ past', ByOthers task.number past past' → Chronicle past' → ∀ reply,
      TrueAfter past' a reply → G (.answered task a reply) past' ∧
        (f reply).Upholds task G R (.answered task a reply :: past')) :
    (Operation.ask a >>= f).Upholds task G R past := h

/-- An ask with nothing after it. -/
theorem ask {a : Ask} {Q : Except ServiceError a.Reply → List Occurrence → Prop}
    (h : ∀ past', ByOthers task.number past past' → Chronicle past' → ∀ reply,
      TrueAfter past' a reply → G (.answered task a reply) past' ∧
        Q (.ok reply) (.answered task a reply :: past')) :
    (Operation.ask a).Upholds task G Q past := h

/-- What stays true is true in the end, whatever the operation. -/
theorem of_stable {F : List Occurrence → Prop} (h : ∀ later, past <:+ later → F later) :
    x.Upholds task (fun _ _ => True) (fun _ => F) past :=
  Plan.Upholds.of_stable h

/-- A plan that cannot fail, and then an operation. -/
theorem lift_bind {p : Plan α} {g : α → Operation β} {Q : α → List Occurrence → Prop}
    (h : p.Upholds task G Q past)
    (hok : ∀ a past', past <:+ past' → Q a past' → (g a).Upholds task G R past') :
    ((liftM p : Operation α) >>= g).Upholds task G R past := by
  refine bind (Q := fun res past' => ∃ a, res = .ok a ∧ Q a past') ?_ ?_ ?_
  · exact Plan.Upholds.bind h fun a past' _ ha => ⟨a, rfl, ha⟩
  · rintro a past' hs ⟨a', ha', hq⟩
    cases ha'
    exact hok a past' hs hq
  · rintro e past' _ ⟨a, ha, -⟩
    cases ha

/-- An operation whose errors are reworded. -/
theorem adapt {g : ServiceError → ServiceError}
    {Q' : Except ServiceError α → List Occurrence → Prop} (h : x.Upholds task G Q past)
    (hQ : ∀ res past', past <:+ past' → Q res past' → Q' (res.mapError g) past') :
    Operation.Upholds task G Q' (ExceptT.adapt g x) past :=
  Plan.Upholds.bind h hQ

/-- An operation for everything in a list. -/
theorem mapM {l : List α} (h : ∀ a ∈ l, ∀ past', past <:+ past' →
    (f a).Upholds task G (fun _ _ => True) past') :
    (l.mapM f).Upholds task G (fun _ _ => True) past := by
  induction l generalizing past with
  | nil => exact trivial
  | cons a l ih =>
    rw [List.mapM_cons]
    refine bind (h a List.mem_cons_self past List.suffix_rfl) ?_ fun _ _ _ _ => trivial
    intro b past₁ h₁ _
    refine bind (ih ?_) (fun _ _ _ _ => trivial) fun _ _ _ _ => trivial
    intro x hx past₂ h₂
    exact h x (List.mem_cons_of_mem a hx) past₂ (h₁.trans h₂)

/-- The same without results. -/
theorem forM {l : List α} {f : α → Operation PUnit} (h : ∀ a ∈ l, ∀ past', past <:+ past' →
    (f a).Upholds task G (fun _ _ => True) past') :
    (l.forM f).Upholds task G (fun _ _ => True) past := by
  induction l generalizing past with
  | nil => exact trivial
  | cons a l ih =>
    refine bind (h a List.mem_cons_self past List.suffix_rfl) ?_ fun _ _ _ _ => trivial
    intro _ past₁ h₁ _
    apply ih
    intro x hx past₂ h₂
    exact h x (List.mem_cons_of_mem a hx) past₂ (h₁.trans h₂)

end Upholds

-- From here on operations are followed by the rules alone.
attribute [irreducible] Operation.Upholds

end Operation

end Enrolment
