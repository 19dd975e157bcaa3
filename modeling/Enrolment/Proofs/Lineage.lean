import Enrolment.Proofs.Reachable
import Enrolment.Proofs.Schedule

/-!
# The lineage of a record

Whatever runs together, the records of an identity are one line: the first is
inserted by a call that makes it, and each of the others takes the place of the
one before it.  No write is lost, and none comes from anywhere else.

What a call writes follows from what the call is about: its task raises an event,
and the record moves along the edge of this event.

## Main definitions

* `Task.Raises` — the events that a task may raise for an identity.
* `Succession` — how an occurrence puts a record after the one that was stored.

## Main statements

* `Revision.raises` — a change follows an event that its task raises.
* `Chronicle.succession` — every write continues the line.
* `World.Step.writes_cases` — a step writes at most one record of an identity.
* `World.Leads.unsubscribed` — the line ends when the registry strikes the
  subscriber off.
* `World.Reachable.lineage` — all of it, for every step of every run.
-/

namespace Enrolment

/-- The events that a task may raise for an identity, after what has happened. -/
inductive Task.Raises (task : Task) (past : List Occurrence) (i : Identity) : Event → Prop
  /-- It makes the registration again. -/
  | reRegistered {role : String} {payload : Payload} (hc : task.call = .update i role payload) :
      task.Raises past i .reRegistered
  /-- It answers a challenge of the registry. -/
  | challenged {keyId : Option String} {challenge : String}
      (hc : task.call = .answerChallenge i.subscriberId keyId challenge)
      (hi : ∀ k, keyId = some k → k = i.keyId) : task.Raises past i .challenged
  /-- It follows the status that the registry pushed. -/
  | pushed {text : String} {target : Status} (hc : task.call = .pushStatus i text)
      (ht : Status.read? text = some target) : task.Raises past i (.pushed target)
  /-- It is a round that heard an acknowledgement. -/
  | accepted {r : Record} {kind : RoundKind} {request : Request} {authorization : Option String}
      {ack : Ack} (hc : task.call = .register r kind) (hi : r.identity = i)
      (ha : .answered task (.call request authorization) (.ok ack) ∈ past) :
      task.Raises past i .accepted
  /-- It is a round that heard a refusal for good. -/
  | rejected {r : Record} {kind : RoundKind} {request : Request} {authorization : Option String}
      {e : RegistryError} (hc : task.call = .register r kind) (hi : r.identity = i)
      (hd : e.isRetryable = false)
      (ha : .answered task (.call request authorization) (.error e) ∈ past) :
      task.Raises past i .rejected

/-- A change follows an event that its task raises. -/
theorem Revision.raises {task : Task} {past : List Occurrence} {old next : Record}
    (h : Revision task past old next) :
    ∃ event, task.Raises past old.identity event ∧ Edge old.status event next.status := by
  cases h with
  | remade hc _ _ he => exact ⟨_, .reRegistered hc, he⟩
  | challenged hc hi _ _ _ he => exact ⟨_, .challenged hc hi, he⟩
  | pushed hc ht he => exact ⟨_, .pushed hc ht, he⟩
  | accepted hc hi _ ha he => exact ⟨_, .accepted hc hi ha, he⟩
  | rejected hc hi _ hd ha he => exact ⟨_, .rejected hc hi hd ha, he⟩

/-- How an occurrence puts a record after the one that was stored, if one was. -/
inductive Succession (past : List Occurrence) : Occurrence → Option Record → Record → Prop
  /-- A call that makes it inserted the record of an identity that had none. -/
  | made {task : Task} {fresh : Record} {role : String} {payload : Payload}
      (hc : task.call = .create fresh.identity role payload) (hs : fresh.status = .initiated) :
      Succession past (.answered task (.insert fresh) (.ok { fresh with version := 1 })) none
        { fresh with version := 1 }
  /-- The record took the place of the stored one and follows an edge. -/
  | revised {task : Task} {old next : Record} {event : Event} (hi : next.identity = old.identity)
      (ht : next.createdAt = old.createdAt) (hr : task.Raises past old.identity event)
      (he : Edge old.status event next.status) :
      Succession past (.answered task (.replace next old.version)
        (.ok { next with version := old.version + 1 })) (some old)
        { next with version := old.version + 1 }

theorem Succession.written?_eq {past : List Occurrence} {o : Occurrence} {before : Option Record}
    {new : Record} (h : Succession past o before new) : o.written? = some new := by
  cases h <;> rfl

/-- Every write continues the line. -/
theorem Chronicle.succession {past : List Occurrence} {o : Occurrence} {new : Record}
    (h : Chronicle (o :: past)) (hw : o.written? = some new) :
    Succession past o (recordAfter new.identity past) new := by
  cases h with
  | begun => cases hw
  | @answered _ task ask reply h hc ht =>
    cases ask with
    | insert fresh =>
      rcases ht with ⟨hn, rfl⟩ | ⟨-, rfl⟩
      · cases hw
        obtain ⟨-, -, role, payload, now, hcall, hm⟩ := hc
        rw [show recordAfter fresh.identity past = none from hn]
        exact .made hcall ((Record.make_eq_ok_iff.1 hm).2 ▸ rfl)
      · cases hw
    | replace next expected =>
      rcases ht with ⟨-, rfl⟩ | ⟨old, ho, ⟨rfl, rfl⟩ | ⟨-, rfl⟩⟩
      · cases hw
      · cases hw
        obtain ⟨-, current, hcur, hv, hrev⟩ := hc
        obtain rfl : current = old :=
          h.eq_of_version_eq ho (mem_writes_iff.2 ⟨hcur, hrev.identity_eq.symm⟩) hv
        obtain ⟨event, hraises, he⟩ := hrev.raises
        rw [show recordAfter next.identity past = some current from ho]
        exact .revised hrev.identity_eq hrev.createdAt_eq hraises he
      · cases hw
    | _ => cases hw

namespace World

variable {w w' : World} {i : Identity}

/-- A step writes at most one record of an identity. -/
theorem Step.writes_cases (hs : w.Step w') (h : w.Sound) (i : Identity) :
    writes i w'.past = writes i w.past ∨ ∃ o new, w'.past = o :: w.past ∧ new.identity = i ∧
      writes i w'.past = new :: writes i w.past ∧
        Succession w.past o (recordAfter i w.past) new := by
  have hchron := (hs.sound h).chronicle
  rcases hs.past with heq | ⟨o, heq⟩ | ⟨task, r, kind, reply, begun, heq⟩ <;> rw [heq] at hchron ⊢
  · exact .inl rfl
  · cases hw : o.written? with
    | none => exact .inl (writes_cons_of_none hw)
    | some new =>
      rw [writes_cons_of_some hw]
      split
      · rename_i hi
        subst hi
        exact .inr ⟨o, new, rfl, rfl, rfl, hchron.succession hw⟩
      · exact .inl rfl
  · exact .inl ((writes_cons_of_none rfl).trans (writes_cons_of_none rfl))

/-- No record disappears. -/
theorem Leads.get?_ne_none (hl : w.Leads w') (h : w.Sound) (hr : w.store.get? i ≠ none) :
    w'.store.get? i ≠ none := by
  rw [(Leads.sound hl h).get?_eq]
  exact recordAfter_ne_none_mono hl.past (h.get?_eq i ▸ hr)

/-- A record is not changed any more once the registry has struck the
subscriber off. -/
theorem Leads.unsubscribed {r : Record} (hl : w.Leads w') (h : w.Sound)
    (hr : w.store.get? i = some r) (hu : r.status = .unsubscribed) : w'.store.get? i = some r := by
  induction hl with
  | refl => exact hr
  | @tail mid last hmid hs ih =>
    have hsound : mid.Sound := Leads.sound hmid h
    have hstored : recordAfter i mid.past = some r := hsound.get?_eq i ▸ ih
    rw [(hs.sound hsound).get?_eq, recordAfter]
    rcases hs.writes_cases hsound i with heq | ⟨o, new, -, rfl, -, hsucc⟩
    · rw [heq]
      exact hstored
    · rw [hstored] at hsucc
      cases hsucc with
      | revised _ _ _ he =>
        rw [hu] at he
        cases he

/-- A stored record is the last one of its line.  A step leaves the line and the
record as they are, or it is an occurrence that continues the line from the stored
record: the insertion of a call that makes the record, if there was none, or else a
replacement along an edge of an event that its task raises.  Records stay for ever,
and a line ends when the registry strikes the subscriber off. -/
theorem Reachable.lineage (h : w.Reachable) (hs : w.Step w') (i : Identity) :
    w.store.get? i = (writes i w.past).head? ∧
      ((writes i w'.past = writes i w.past ∧
          w'.store.get? i = w.store.get? i) ∨
        ∃ o new, w'.past = o :: w.past ∧ o.written? = some new ∧ new.identity = i ∧
          writes i w'.past = new :: writes i w.past ∧ w'.store.get? i = some new ∧
          Succession w.past o (w.store.get? i) new) ∧
      ∀ old, w.store.get? i = some old → ∀ later, w'.Leads later →
        ∃ r, later.store.get? i = some r ∧ (old.status = .unsubscribed → r = old) := by
  have hsound : w.Sound := h.sound
  have hstored : w.store.get? i = (writes i w.past).head? := hsound.get?_eq i
  have hstored' : w'.store.get? i = (writes i w'.past).head? := (hs.sound hsound).get?_eq i
  refine ⟨hstored, ?_, ?_⟩
  · rcases hs.writes_cases hsound i with heq | ⟨o, new, hpast, hi, heq, hsucc⟩
    · exact .inl ⟨heq, by rw [hstored, hstored', heq]⟩
    · refine .inr ⟨o, new, hpast, hsucc.written?_eq, hi, heq, ?_, by rwa [hstored]⟩
      rw [hstored', heq, List.head?_cons]
  · intro old hold later hl
    have hl' : w.Leads later := .head hs hl
    have hstays : later.store.get? i ≠ none := hl'.get?_ne_none hsound (by simp [hold])
    obtain ⟨r, hr⟩ := Option.ne_none_iff_exists'.1 hstays
    refine ⟨r, hr, ?_⟩
    intro hu
    rw [hl'.unsubscribed hsound hold hu] at hr
    exact (Option.some.inj hr).symm

/-- The first of two rounds that looked at one record replaces it. -/
theorem lineage_rivalRounds : ∃ w w' : World, w.Reachable ∧ w.Step w' ∧
    (w.store.get? sampleIdentity).map (·.version) = some 1 ∧
    (w'.store.get? sampleIdentity).map (·.version) = some 2 ∧
    ∃ o new, w'.past = o :: w.past ∧ writes sampleIdentity w'.past =
      new :: writes sampleIdentity w.past ∧
      Succession w.past o (w.store.get? sampleIdentity) new := by
  have hr : (empty.play rivalRounds).Reachable := leads_play empty rivalRounds
  have hs : (empty.play rivalRounds).Step ((empty.play rivalRounds).next (.answer 1 .sample)) :=
    step_next (by decide +kernel)
  have hbefore : ((empty.play rivalRounds).store.get? sampleIdentity).map (·.version) = some 1 := by
    decide +kernel
  have hafter : (((empty.play rivalRounds).next (.answer 1 .sample)).store.get?
      sampleIdentity).map (·.version) = some 2 := by
    decide +kernel
  refine ⟨_, _, hr, hs, hbefore, hafter, ?_⟩
  obtain ⟨-, ⟨-, heq⟩ | ⟨o, new, hpast, -, -, hwrites, -, hsucc⟩, -⟩ :=
    Reachable.lineage hr hs sampleIdentity
  · rw [heq, hbefore] at hafter
    cases hafter
  · exact ⟨o, new, hpast, hwrites, hsucc⟩

end World

end Enrolment
