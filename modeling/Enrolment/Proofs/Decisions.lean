import Enrolment.Proofs.Standing

/-!
# What decides a round

Any number of rounds may be under way for one identity: the first one, those that
a restart started once more, and those of waits that are long over.  What the
registry tells a round counts only while the record still is the one that the
round is for.  So rounds never decide each other, and a wait is decided by one
round at most.

## Main definitions

* `Decides` — an outcome of a round was written.

## Main statements

* `Chronicle.awaited_of_write` — a round writes only while its record waits.
* `Decides.unique` — one outcome at most is written for a version.
* `World.Reachable.decisions` — all of it, for every run.
-/

namespace Enrolment

variable {past e e₁ e₂ : List Occurrence} {o o₁ o₂ : Occurrence} {i : Identity} {version : Nat}
  {r new : Record} {kind : RoundKind}

/-- The occurrence wrote what a round for the record of a version came to. -/
structure Decides (i : Identity) (version : Nat) (past : List Occurrence) (o : Occurrence)
    (earlier : List Occurrence) : Prop where
  /-- It is one of those that happened. -/
  suffix : (o :: earlier) <:+ past
  /-- It belongs to such a round. -/
  round : ∃ r kind, o.task.call = .register r kind ∧ r.identity = i ∧ r.version = version
  /-- It wrote. -/
  wrote : o.written? ≠ none

/-- A round writes only while the record that it is for waits, as it was when the
round began. -/
theorem Chronicle.awaited_of_write (h : Chronicle (o :: past)) (hw : o.written? = some new)
    (hc : o.task.call = .register r kind) : new.identity = r.identity ∧
      ∃ old, recordAfter r.identity past = some old ∧ old.status = .initiated ∧
        old.version = r.version ∧ new.version = old.version + 1 := by
  cases h.commit hw with
  | made hmade _ _ _ =>
    rw [hc] at hmade
    cases hmade
  | @revised old next ho hrev =>
    cases hrev with
    | remade hother | challenged hother | pushed hother =>
      rw [hc] at hother
      cases hother
    | accepted hr hi hv _ he | rejected hr hi hv _ _ he =>
      rw [hc] at hr
      cases hr
      exact ⟨hi.symm, old, hi ▸ ho, he.eq_initiated (by simp), hv.symm, rfl⟩

/-- The writes of an identity before a round was decided are as many as its
version, and one more after it. -/
private theorem Decides.length_writes (h : Chronicle past) (hd : Decides i version past o e) :
    (writes i e).length = version ∧ (writes i (o :: e)).length = version + 1 := by
  obtain ⟨new, hw⟩ := Option.ne_none_iff_exists'.1 hd.wrote
  obtain ⟨r, kind, hc, rfl, rfl⟩ := hd.round
  have hchron : Chronicle (o :: e) := h.of_suffix hd.suffix
  obtain ⟨hi, old, hold, -, hv, -⟩ := hchron.awaited_of_write hw hc
  have hlen : (writes r.identity e).length = r.version := by
    rw [← hchron.tail.version_eq hold, hv]
  exact ⟨hlen, by rw [writes_cons_of_some hw, if_pos hi, List.length_cons, hlen]⟩

/-- Nothing that decides a round comes after another thing that decided it. -/
private theorem Decides.length_le (h : Chronicle past) (h₁ : Decides i version past o₁ e₁)
    (h₂ : Decides i version past o₂ e₂) : e₂.length ≤ e₁.length := by
  by_contra hlt
  have hsuffix : (o₁ :: e₁) <:+ e₂ :=
    List.suffix_of_suffix_length_le h₁.suffix ((List.suffix_cons o₂ e₂).trans h₂.suffix)
      (by rw [List.length_cons]; omega)
  obtain ⟨between, rfl⟩ := hsuffix
  have hbefore := (h₂.length_writes h).1
  have hafter := (h₁.length_writes h).2
  rw [writes_append, List.length_append] at hbefore
  omega

/-- One outcome at most is written for the record of a version. -/
theorem Decides.unique (h : Chronicle past) (h₁ : Decides i version past o₁ e₁)
    (h₂ : Decides i version past o₂ e₂) : o₁ = o₂ ∧ e₁ = e₂ := by
  have hlen : (o₁ :: e₁).length = (o₂ :: e₂).length := by
    have hle := h₁.length_le h h₂
    have hge := h₂.length_le h h₁
    simp only [List.length_cons]
    omega
  have hsuffix : (o₁ :: e₁) <:+ (o₂ :: e₂) :=
    List.suffix_of_suffix_length_le h₁.suffix h₂.suffix (Nat.le_of_eq hlen)
  exact List.cons.inj (hsuffix.eq_of_length hlen)

namespace World

variable {w w' : World}

/-- What a round is told changes nothing but its own record, and this only while
it waits at the version of the round. -/
theorem Step.round {task : Task} {ask : Ask} {reply : ask.Reply} (hs : w.Step w') (h : w.Sound)
    (hp : w'.past = .answered task ask reply :: w.past) (hc : task.call = .register r kind)
    (i : Identity) : w'.store.get? i = w.store.get? i ∨ (i = r.identity ∧
      ∃ old, w.store.get? i = some old ∧ old.status = .initiated ∧ old.version = r.version) := by
  have hchron : Chronicle (.answered task ask reply :: w.past) := hp ▸ (hs.sound h).chronicle
  rw [(hs.sound h).get?_eq, h.get?_eq, hp]
  cases hw : Occurrence.written? (.answered task ask reply) with
  | none => exact .inl (recordAfter_cons_of_none hw)
  | some new =>
    obtain ⟨hi, old, hold, hs, hv, -⟩ := hchron.awaited_of_write hw hc
    rw [recordAfter_cons_of_some hw]
    by_cases hin : i = new.identity
    · subst hin
      exact .inr ⟨hi, old, hi ▸ hold, hs, hv⟩
    · exact .inl (if_neg hin)

/-- In every run, what a round is told changes only a record that waits at the
version of the round; one outcome at most is written for the record of a
version; and the acknowledgement that a record bears was given to a round of its
last wait. -/
theorem Reachable.decisions (h : w.Reachable) :
    (∀ (w' : World) (task : Task) (ask : Ask) (reply : ask.Reply) (r : Record) (kind : RoundKind),
      w.Step w' → w'.past = .answered task ask reply :: w.past → task.call = .register r kind →
        ∀ i, w'.store.get? i = w.store.get? i ∨ (i = r.identity ∧
          ∃ old, w.store.get? i = some old ∧ old.status = .initiated ∧
            old.version = r.version)) ∧
      (∀ i version o₁ e₁ o₂ e₂, Decides i version w.past o₁ e₁ → Decides i version w.past o₂ e₂ →
        o₁ = o₂ ∧ e₁ = e₂) ∧
      ∀ i r m, w.store.get? i = some r → r.messageId = some m →
        ∃ task new, LastWait i w.past task new ∧ Acknowledged w.past i new.version m := by
  refine ⟨fun w' task ask reply r kind hs hp hc => hs.round h.sound hp hc,
    fun i version o₁ e₁ o₂ e₂ h₁ h₂ => h₁.unique h.sound.chronicle h₂, ?_⟩
  intro i r m hr hm
  have hstored : recordAfter i w.past = some r := h.sound.get?_eq i ▸ hr
  obtain ⟨task, new, hlast, hb⟩ := h.sound.chronicle.lastWait hstored
  exact ⟨task, new, hlast, identity_of_recordAfter hstored ▸ hb.acknowledged m hm⟩

/-- After a renewal the acknowledgement belongs to the second wait, though a round
of the first one was acknowledged before. -/
theorem decisions_renewal : ∃ w : World, w.Reachable ∧ ∃ r,
    w.store.get? sampleIdentity = some r ∧ r.version = 4 ∧
      ∃ task new, LastWait sampleIdentity w.past task new ∧
        Acknowledged w.past sampleIdentity new.version "request" := by
  have hfinal : ((empty.play renewal).store.get? sampleIdentity).map
      (fun r => (r.version, r.messageId)) = some (4, some "request") := by
    decide +kernel
  obtain ⟨r, hr, heq⟩ := Option.map_eq_some_iff.1 hfinal
  obtain ⟨hversion, hm⟩ := Prod.mk.inj heq
  have hreach : (empty.play renewal).Reachable := leads_play _ _
  exact ⟨_, hreach, r, hr, hversion, (Reachable.decisions hreach).2.2 _ r "request" hr hm⟩

end World

end Enrolment
