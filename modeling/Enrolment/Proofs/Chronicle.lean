import Enrolment.Proofs.History

/-!
# Chronicles

A chronicle is a list of occurrences in which every answer is true and every
task asks only for what its call entitles it to.  Everything that runs leave
behind is a chronicle; what holds of all runs is proved of chronicles, by
induction on what happened.

The central rule is about writes.  A task that replaces a record computed the
replacement from a record that was written before, and the replacement succeeds
only at the version of that record.  Versions of one identity grow by one with
each write, so the record at that version is the one that is stored: no write is
lost.

## Main definitions

* `lastAccess` — the last time that a task met the records.
* `Revision` — how a task may change a record.
* `Conduct`, `Chronicle` — what a task may ask for, and the occurrences that
  respect it.
* `Commit` — what one write may do.

## Main statements

* `Chronicle.commit` — every write makes a record or revises the stored one.
* `Chronicle.lastAccess_of_written` — a task writes at most once.
* `Chronicle.version_eq` — the version of a record counts its writes.
* `Chronicle.stored_induction` — what every write establishes holds of every
  stored record.
* `Chronicle.kept_since` — what every change keeps holds as long as it does.
-/

namespace Enrolment

/-! ## Meeting the records -/

/-- The ask reads or writes the record of one identity. -/
def Ask.isAccess : Ask → Bool
  | lookup _ | insert _ | replace .. => true
  | _ => false

/-- The task begins, or reads or writes the record of one identity. -/
def Occurrence.isAccess : Occurrence → Bool
  | begun _ => true
  | answered _ ask _ => ask.isAccess

/-- The occurrence is part of what the call does.  A round meets the record only
in the end, and what it does before is between it and the registry. -/
def Occurrence.isPart : Occurrence → Bool
  | begun task => !task.call.isRound
  | answered task ask _ => !task.call.isRound || ask.isAccess

/-- The last access of a task, and what happened before it. -/
def lastAccess (k : Nat) : List Occurrence → Option (Occurrence × List Occurrence)
  | [] => none
  | o :: earlier =>
    if o.task.number = k ∧ o.isAccess then some (o, earlier) else lastAccess k earlier

/-- The last access of the task wrote nothing. -/
def Uncommitted (k : Nat) (past : List Occurrence) : Prop :=
  ∀ o earlier, lastAccess k past = some (o, earlier) → o.written? = none

/-- Between the two, the task had only occurrences of a kind. -/
def Since (k : Nat) (own : Occurrence → Prop) (earlier past : List Occurrence) : Prop :=
  ∃ more, past = more ++ earlier ∧ ∀ o ∈ more, o.task.number = k → own o

/-- Between the two only others did anything. -/
abbrev ByOthers (k : Nat) : List Occurrence → List Occurrence → Prop := Since k fun _ => False

/-- Between the two the task met no records. -/
abbrev Quiet (k : Nat) : List Occurrence → List Occurrence → Prop :=
  Since k fun o => o.isAccess = false

/-- What came after all of the earlier occurrences is one of the later ones. -/
theorem mem_of_suffix_append {later earlier e : List Occurrence} {o : Occurrence}
    (h : (o :: e) <:+ later ++ earlier) (he : earlier <:+ e) : o ∈ later := by
  obtain ⟨x, hx⟩ := h
  obtain ⟨y, rfl⟩ := he
  have heq : x ++ o :: y = later := by
    refine List.append_left_injective earlier ?_
    simpa using hx
  rw [← heq]
  simp

namespace Since

variable {k : Nat} {own own' : Occurrence → Prop} {a b c : List Occurrence} {o : Occurrence}

theorem refl (past : List Occurrence) : Since k own past past := ⟨[], rfl, by simp⟩

theorem trans (h₁ : Since k own a b) (h₂ : Since k own b c) : Since k own a c := by
  obtain ⟨m₁, rfl, h₁⟩ := h₁
  obtain ⟨m₂, rfl, h₂⟩ := h₂
  refine ⟨m₂ ++ m₁, by simp, ?_⟩
  intro o ho
  rcases List.mem_append.1 ho with ho | ho
  · exact h₂ o ho
  · exact h₁ o ho

theorem mono (h : Since k own a b) (hown : ∀ o, own o → own' o) : Since k own' a b := by
  obtain ⟨more, rfl, h⟩ := h
  exact ⟨more, rfl, fun o ho hk => hown o (h o ho hk)⟩

theorem cons (h : Since k own a b) (ho : o.task.number = k → own o) : Since k own a (o :: b) := by
  obtain ⟨more, rfl, h⟩ := h
  refine ⟨o :: more, rfl, ?_⟩
  intro x hx
  rcases List.mem_cons.1 hx with rfl | hx
  · exact ho
  · exact h x hx

theorem suffix (h : Since k own a b) : a <:+ b := by
  obtain ⟨more, rfl, -⟩ := h
  exact List.suffix_append more a

/-- What the task did that is not of the kind came before. -/
theorem suffix_of_not (h : Since k own a b) (hs : (o :: c) <:+ b) (hk : o.task.number = k)
    (ho : ¬own o) : (o :: c) <:+ a := by
  obtain ⟨more, rfl, hmore⟩ := h
  rcases List.suffix_or_suffix_of_suffix hs (List.suffix_append more a) with hin | hin
  · exact hin
  · rcases List.suffix_cons_iff.1 hin with rfl | hin
    · exact List.suffix_rfl
    · exact absurd (hmore o (mem_of_suffix_append hs hin) hk) ho

end Since

/-- Where only others did anything, nothing happened to the task. -/
theorem ByOthers.not_acting {k : Nat} {a b e : List Occurrence} {o : Occurrence}
    (h : ByOthers k a b) (hs : (o :: e) <:+ b) (hk : o.task.number = k) : ¬a <:+ e := by
  intro ha
  have hle := ((h.suffix_of_not hs hk id).trans ha).length_le
  rw [List.length_cons] at hle
  omega

theorem ByOthers.quiet {k : Nat} {a b : List Occurrence} (h : ByOthers k a b) : Quiet k a b :=
  h.mono fun _ => False.elim

theorem lastAccess_of_quiet {k : Nat} {earlier past : List Occurrence} (h : Quiet k earlier past) :
    lastAccess k past = lastAccess k earlier := by
  obtain ⟨more, rfl, h⟩ := h
  induction more with
  | nil => rfl
  | cons o more ih =>
    have hmore : ∀ x ∈ more, x.task.number = k → x.isAccess = false :=
      fun x hx => h x (List.mem_cons_of_mem o hx)
    have ho : ¬(o.task.number = k ∧ o.isAccess = true) := by
      rintro ⟨hk, ha⟩
      simp [h o List.mem_cons_self hk] at ha
    rw [List.cons_append, lastAccess, if_neg ho, ih hmore]

theorem Uncommitted.quiet {k : Nat} {earlier past : List Occurrence} (h : Uncommitted k earlier)
    (hq : Quiet k earlier past) : Uncommitted k past := by
  rw [Uncommitted, lastAccess_of_quiet hq]
  exact h

theorem lastAccess_cons_self {o : Occurrence} {past : List Occurrence} (h : o.isAccess = true) :
    lastAccess o.task.number (o :: past) = some (o, past) := by
  simp [lastAccess, h]

theorem lastAccess_suffix {k : Nat} {o : Occurrence} {earlier past : List Occurrence}
    (h : lastAccess k past = some (o, earlier)) : (o :: earlier) <:+ past := by
  induction past with
  | nil => cases h
  | cons x past ih =>
    rw [lastAccess] at h
    split at h
    · obtain ⟨rfl, rfl⟩ := Prod.mk.inj (Option.some.inj h)
      exact List.suffix_rfl
    · exact (ih h).trans (List.suffix_cons x past)

/-- The last access of a task is one, and one of that task. -/
theorem lastAccess_spec {k : Nat} {o : Occurrence} {earlier past : List Occurrence}
    (h : lastAccess k past = some (o, earlier)) : o.task.number = k ∧ o.isAccess = true := by
  induction past with
  | nil => cases h
  | cons x past ih =>
    rw [lastAccess] at h
    split at h
    · rename_i hx
      obtain ⟨rfl, -⟩ := Prod.mk.inj (Option.some.inj h)
      exact hx
    · exact ih h

/-- Meeting the records is part of what every call does. -/
theorem Occurrence.isPart_answered {task : Task} {ask : Ask} (reply : ask.Reply)
    (ha : ask.isAccess = true) : (answered task ask reply).isPart = true := by
  simp [isPart, ha]

theorem Occurrence.isPart_begun {task : Task} {c : Service.Call} (hc : task.call = c)
    (hr : c.isRound = false) : (begun task).isPart = true := by
  simp [isPart, hc, hr]

theorem Occurrence.isAccess_of_written {o : Occurrence} {r : Record} (h : o.written? = some r) :
    o.isAccess = true := by
  cases o with
  | begun task => cases h
  | answered task ask reply =>
    cases ask with
    | insert | replace => rfl
    | _ => cases h

/-! ## Changes of records -/

/-- How a task may change a record, after what has happened. -/
inductive Revision (task : Task) (past : List Occurrence) (old : Record) : Record → Prop
  /-- The registration is made again, of checked parts. -/
  | remade {role : String} {payload : Payload} {now : Moment}
      (hc : task.call = .update old.identity role payload) (hr : checkRole role = .ok ())
      (hp : payload.check = .ok ()) (he : Edge old.status .reRegistered .initiated) :
      Revision task past old
        { old.withStatus .initiated now with role := role, payload := payload, messageId := none }
  /-- A challenge was opened with the keyset of the record. -/
  | challenged {keyId : Option String} {challenge answer : String} {keys : Keyset} {now : Moment}
      (hc : task.call = .answerChallenge old.identity.subscriberId keyId challenge)
      (hi : ∀ k, keyId = some k → k = old.identity.keyId)
      (hk : keysAfter old.identity.keyId past = some keys)
      (ho : Challenge.answerWith keys task.service.registryKey challenge = .ok answer)
      (hn : ¬(old.status = .underSubscription ∧ old.nonce = some answer))
      (he : Edge old.status .challenged .underSubscription) :
      Revision task past old { old.withStatus .underSubscription now with nonce := some answer }
  /-- The registry pushed a status. -/
  | pushed {text : String} {target : Status} {now : Moment}
      (hc : task.call = .pushStatus old.identity text) (ht : Status.read? text = some target)
      (he : Edge old.status (.pushed target) target) :
      Revision task past old (old.withStatus target now)
  /-- The registry acknowledged the round that the record is in. -/
  | accepted {r : Record} {kind : RoundKind} {request : Request} {authorization : Option String}
      {ack : Ack} {now : Moment} (hc : task.call = .register r kind)
      (hi : r.identity = old.identity) (hv : r.version = old.version)
      (ha : .answered task (.call request authorization) (.ok ack) ∈ past)
      (he : Edge old.status .accepted .underSubscription) :
      Revision task past old
        { old.withStatus .underSubscription now with messageId := some ack.messageId }
  /-- The registry refused the round that the record is in. -/
  | rejected {r : Record} {kind : RoundKind} {request : Request} {authorization : Option String}
      {e : RegistryError} {now : Moment} (hc : task.call = .register r kind)
      (hi : r.identity = old.identity) (hv : r.version = old.version)
      (hd : e.isRetryable = false)
      (ha : .answered task (.call request authorization) (.error e) ∈ past)
      (he : Edge old.status .rejected .invalid) :
      Revision task past old (old.withStatus .invalid now)

namespace Revision

variable {task : Task} {past : List Occurrence} {old next : Record}

theorem identity_eq (h : Revision task past old next) : next.identity = old.identity := by
  cases h <;> rfl

theorem createdAt_eq (h : Revision task past old next) : next.createdAt = old.createdAt := by
  cases h <;> rfl

/-- A change follows an edge of the graph. -/
theorem edge (h : Revision task past old next) : ∃ event, Edge old.status event next.status := by
  cases h with
  | remade _ _ _ he | challenged _ _ _ _ _ he | pushed _ _ he | accepted _ _ _ _ he
  | rejected _ _ _ _ _ he => exact ⟨_, he⟩

end Revision

/-! ## Chronicles -/

/-- What a task may ask for after what has happened.  A task meets the records
until it has written one.  A record is made by a call that makes it, of checked
parts, for a key that has a keyset; it is replaced by a change of one that was
written.  Only a call that makes a registration offers keys; only keysets that
are stored are kept at hand, and rounds are started for stored records. -/
def Conduct (task : Task) (past : List Occurrence) : Ask → Prop
  | .lookup _ => Uncommitted task.number past
  | .insert r => Uncommitted task.number past ∧ keysAfter r.identity.keyId past ≠ none ∧
    ∃ role payload now, task.call = .create r.identity role payload ∧
      Record.make r.identity role payload now = .ok r
  | .replace next expected => Uncommitted task.number past ∧
    ∃ current ∈ written past, current.version = expected ∧ Revision task past current next
  | .offerKeys keyId _ =>
    ∃ identity role payload, task.call = .create identity role payload ∧ identity.keyId = keyId
  | .keepKeys keyId keys => keysAfter keyId past = some keys
  | .schedule r _ => r ∈ written past
  | _ => True

/-- Occurrences in which every answer is true and every task behaves. -/
inductive Chronicle : List Occurrence → Prop
  /-- Nothing has happened. -/
  | nil : Chronicle []
  /-- A call was made that may be made, under a number of its own. -/
  | begun {past : List Occurrence} {task : Task} (h : Chronicle past)
      (hc : World.Admits past task.call) (hf : ∀ o ∈ past, o.task.number ≠ task.number) :
      Chronicle (.begun task :: past)
  /-- A task asked for what it may ask for, and the answer was true. -/
  | answered {past : List Occurrence} {task : Task} {ask : Ask} {reply : ask.Reply}
      (h : Chronicle past) (hc : Conduct task past ask) (ht : TrueAfter past ask reply) :
      Chronicle (.answered task ask reply :: past)

/-- What one write may do: make the record of an identity that has none, or
revise the one that is stored. -/
inductive Commit (task : Task) (past : List Occurrence) : Record → Prop
  /-- The record is new. -/
  | made {r : Record} {role : String} {payload : Payload} {now : Moment}
      (hc : task.call = .create r.identity role payload)
      (hm : Record.make r.identity role payload now = .ok r)
      (hk : keysAfter r.identity.keyId past ≠ none)
      (hn : recordAfter r.identity past = none) : Commit task past { r with version := 1 }
  /-- The record takes the place of the stored one. -/
  | revised {old next : Record} (ho : recordAfter old.identity past = some old)
      (hr : Revision task past old next) :
      Commit task past { next with version := old.version + 1 }

namespace Chronicle

variable {past earlier : List Occurrence} {o : Occurrence} {i : Identity} {r old new : Record}

theorem tail (h : Chronicle (o :: past)) : Chronicle past := by
  cases h with
  | begun h _ _ | answered h _ _ => exact h

theorem of_suffix (h : Chronicle past) (hs : earlier <:+ past) : Chronicle earlier := by
  obtain ⟨later, rfl⟩ := hs
  induction later with
  | nil => exact h
  | cons o later ih => exact ih h.tail

/-- What was answered is true. -/
theorem told (h : Chronicle past) {task : Task} {ask : Ask} {reply : ask.Reply}
    (hs : (.answered task ask reply :: earlier) <:+ past) : TrueAfter earlier ask reply := by
  cases h.of_suffix hs with
  | answered _ _ ht => exact ht

/-! ### Versions -/

/-- What a write is, before versions are compared: the first of its identity, or
the replacement of a record at the version of one that was written. -/
private theorem write_cases (h : Chronicle (o :: past)) (hw : o.written? = some new) :
    (recordAfter new.identity past = none ∧ new.version = 1 ∧ Commit o.task past new) ∨
      ∃ old current next, recordAfter next.identity past = some old ∧ current ∈ written past ∧
        current.version = old.version ∧ Revision o.task past current next ∧
        new = { next with version := old.version + 1 } := by
  cases h with
  | begun _ _ _ => cases hw
  | @answered _ task ask reply h hc ht =>
    cases ask with
    | insert r =>
      rcases ht with ⟨hn, rfl⟩ | ⟨-, rfl⟩
      · obtain rfl : { r with version := 1 } = new := by
          simpa [Occurrence.written?, Occurrence.stored?, Except.toOption] using hw
        obtain ⟨-, hk, role, payload, now, hcall, hm⟩ := hc
        exact .inl ⟨hn, rfl, .made hcall hm hk hn⟩
      · cases hw
    | replace next expected =>
      rcases ht with ⟨-, rfl⟩ | ⟨old, ho, ⟨rfl, rfl⟩ | ⟨-, rfl⟩⟩
      · cases hw
      · obtain rfl : { next with version := old.version + 1 } = new := by
          simpa [Occurrence.written?, Occurrence.stored?, Except.toOption] using hw
        obtain ⟨-, current, hcur, hv, hr⟩ := hc
        exact .inr ⟨old, current, next, ho, hcur, hv, hr, rfl⟩
      · cases hw
    | lookup | ofSubscriber | withStatus | storedKeys | offerKeys | keysAtHand | keepKeys
    | freshKeys | freshName | clock | chance | pause | call | schedule => cases hw

/-- A write is one above the stored record, or the first of its identity. -/
private theorem version_of_write (h : Chronicle (o :: past)) (hw : o.written? = some new) :
    (recordAfter new.identity past = none ∧ new.version = 1) ∨
      ∃ old, recordAfter new.identity past = some old ∧ new.version = old.version + 1 := by
  rcases h.write_cases hw with ⟨hn, hv, -⟩ | ⟨old, current, next, ho, -, -, -, rfl⟩
  · exact .inl ⟨hn, hv⟩
  · exact .inr ⟨old, ho, rfl⟩

/-- Every write counts those of its identity. -/
theorem version_of_suffix (h : Chronicle past) {ws : List Record}
    (hs : (r :: ws) <:+ writes i past) : r.version = ws.length + 1 := by
  induction past generalizing r ws with
  | nil => simp at hs
  | cons o past ih =>
    cases hw : o.written? with
    | none => exact ih h.tail (writes_cons_of_none hw ▸ hs)
    | some new =>
      rw [writes_cons_of_some hw] at hs
      split at hs
      · rename_i hi
        subst hi
        rcases List.suffix_cons_iff.1 hs with heq | hs
        · obtain ⟨rfl, rfl⟩ := List.cons.inj heq
          rcases h.version_of_write hw with ⟨hn, hv⟩ | ⟨old, ho, hv⟩
          · simp [hv, recordAfter_eq_none_iff.1 hn]
          · obtain ⟨ws, hws⟩ := List.head?_eq_some_iff.1 ho
            have hold : old.version = ws.length + 1 := ih h.tail ⟨[], hws.symm⟩
            simp [hv, hws, hold]
        · exact ih h.tail hs
      · exact ih h.tail hs

/-- The version of a record counts the writes of its identity. -/
theorem version_eq (h : Chronicle past) (hr : recordAfter i past = some r) :
    r.version = (writes i past).length := by
  obtain ⟨ws, hws⟩ := List.head?_eq_some_iff.1 hr
  rw [hws, List.length_cons]
  exact h.version_of_suffix ⟨[], hws.symm⟩

/-- No record of an identity has a version above the number of its writes. -/
theorem version_le (h : Chronicle past) (hr : r ∈ writes i past) :
    r.version ≤ (writes i past).length := by
  obtain ⟨later, rest, hsplit⟩ := List.append_of_mem hr
  have hv : r.version = rest.length + 1 := h.version_of_suffix ⟨later, hsplit.symm⟩
  rw [hsplit, hv, List.length_append, List.length_cons]
  omega

/-- A stored record was stored ever since it was written. -/
theorem stored_of_mem (h : Chronicle past) (hs : earlier <:+ past)
    (hr : recordAfter i past = some r) (hmem : r ∈ writes i earlier) :
    recordAfter i earlier = some r := by
  have hcount := h.version_eq hr
  have hbound := (h.of_suffix hs).version_le hmem
  obtain ⟨later, rfl⟩ := hs
  rw [recordAfter, writes_append] at hr
  cases hw : writes i later with
  | nil => simpa [hw, recordAfter] using hr
  | cons new rest =>
    rw [writes_append, hw] at hcount
    simp only [List.cons_append, List.length_cons, List.length_append] at hcount
    omega

/-- Only one record of an identity was written at the version of the stored
one. -/
theorem eq_of_version_eq (h : Chronicle past) (ho : recordAfter i past = some old)
    (hr : r ∈ writes i past) (hv : r.version = old.version) : r = old := by
  obtain ⟨ws, hws⟩ := List.head?_eq_some_iff.1 ho
  have hold : old.version = ws.length + 1 := h.version_of_suffix ⟨[], hws.symm⟩
  rw [hws] at hr
  rcases List.mem_cons.1 hr with rfl | hr
  · rfl
  · obtain ⟨later, rest, rfl⟩ := List.append_of_mem hr
    have hsuffix : (r :: rest) <:+ writes i past := by
      rw [hws]
      exact ⟨old :: later, by simp⟩
    have hr' : r.version = rest.length + 1 := h.version_of_suffix hsuffix
    simp only [List.length_append, List.length_cons] at hold
    omega

/-! ### Writes -/

/-- Every write makes a record or revises the stored one. -/
theorem commit (h : Chronicle (o :: past)) (hw : o.written? = some new) :
    Commit o.task past new := by
  rcases h.write_cases hw with ⟨-, -, hcom⟩ | ⟨old, current, next, ho, hcur, hv, hr, rfl⟩
  · exact hcom
  · have hmem : current ∈ writes next.identity past := mem_writes_iff.2 ⟨hcur, hr.identity_eq.symm⟩
    obtain rfl : current = old := h.tail.eq_of_version_eq ho hmem hv
    exact .revised (hr.identity_eq ▸ ho) hr

/-- What is written over a stored record revises it. -/
theorem revision_of_stored (h : Chronicle (o :: past)) (hw : o.written? = some new)
    (hr : recordAfter new.identity past = some old) :
    ∃ next, Revision o.task past old next ∧ new = { next with version := old.version + 1 } := by
  cases h.commit hw with
  | made _ _ _ hn =>
    have hnone : recordAfter _ past = none := hn
    rw [hnone] at hr
    cases hr
  | @revised stored next ho hrev =>
    have hsome : recordAfter _ past = some stored := hrev.identity_eq ▸ ho
    obtain rfl : stored = old := Option.some.inj (hsome.symm.trans hr)
    exact ⟨next, hrev, rfl⟩

/-- What holds of a stored record, and is kept by the changes of a while, holds of
the record that is stored then. -/
theorem kept_since {P : Record → Prop} {more : List Occurrence} (h : Chronicle (more ++ earlier))
    (hr : recordAfter i earlier = some r) (hP : P r)
    (hkeep : ∀ o ∈ more, ∀ past old next, earlier <:+ past → Revision o.task past old next →
      (∃ new, o.written? = some new ∧ new.identity = i) → old.identity = i → P old →
        P { next with version := old.version + 1 }) :
    ∃ r, recordAfter i (more ++ earlier) = some r ∧ P r := by
  induction more with
  | nil => exact ⟨r, hr, hP⟩
  | cons o more ih =>
    obtain ⟨old, hold, hPold⟩ := ih h.tail fun x hx => hkeep x (List.mem_cons_of_mem o hx)
    cases hw : o.written? with
    | none => exact ⟨old, by rwa [List.cons_append, recordAfter_cons_of_none hw], hPold⟩
    | some new =>
      rw [List.cons_append, recordAfter_cons_of_some hw]
      by_cases hi : i = new.identity
      · rw [if_pos hi]
        subst hi
        obtain ⟨next, hrev, rfl⟩ := h.revision_of_stored hw hold
        exact ⟨_, rfl, hkeep o List.mem_cons_self _ old next (List.suffix_append more earlier) hrev
          ⟨_, hw, rfl⟩ (identity_of_recordAfter hold) hPold⟩
      · rw [if_neg hi]
        exact ⟨old, hold, hPold⟩

/-- Every occurrence of a chronicle came after a chronicle. -/
theorem commit_of_suffix (h : Chronicle past) (hs : (o :: earlier) <:+ past)
    (hw : o.written? = some new) : Commit o.task earlier new :=
  (h.of_suffix hs).commit hw

/-- A task that wrote does not meet the records any more. -/
theorem lastAccess_of_written (h : Chronicle past) (hs : (o :: earlier) <:+ past)
    (hw : o.written? = some new) : lastAccess o.task.number past = some (o, earlier) := by
  obtain ⟨later, rfl⟩ := hs
  induction later with
  | nil => exact lastAccess_cons_self (Occurrence.isAccess_of_written hw)
  | cons x later ih =>
    have hlast := ih h.tail
    have hx : ¬(x.task.number = o.task.number ∧ x.isAccess = true) := by
      rintro ⟨hk, ha⟩
      cases h with
      | begun _ _ hf => exact hf o (by simp) hk.symm
      | @answered _ task ask reply _ hc _ =>
        have hu : Uncommitted task.number (later ++ o :: earlier) := by
          cases ask with
          | lookup => exact hc
          | insert | replace => exact hc.1
          | _ => cases ha
        have hnone : o.written? = none := hu o earlier (hk ▸ hlast)
        simp [hw] at hnone
    rw [List.cons_append, lastAccess, if_neg hx, hlast]

/-- A record has a keyset for its key. -/
theorem keysAfter_ne_none (h : Chronicle past) (hr : recordAfter i past ≠ none) :
    keysAfter i.keyId past ≠ none := by
  induction past with
  | nil => exact absurd rfl hr
  | cons o past ih =>
    have hgrown : ∀ {k}, keysAfter k past ≠ none → keysAfter k (o :: past) ≠ none := by
      intro k hk
      obtain ⟨keys, hkeys⟩ := Option.ne_none_iff_exists'.1 hk
      simp [keysAfter_mono (List.suffix_cons o past) hkeys]
    cases hw : o.written? with
    | none => exact hgrown (ih h.tail (recordAfter_cons_of_none hw ▸ hr))
    | some new =>
      rw [recordAfter_cons_of_some hw] at hr
      split at hr
      · rename_i hi
        cases h.commit hw with
        | made _ _ hk _ =>
          subst hi
          exact hgrown hk
        | @revised old next ho hrev =>
          have hold : i = old.identity := hi.trans hrev.identity_eq
          subst hold
          exact hgrown (ih h.tail (by simp [ho]))
      · exact hgrown (ih h.tail hr)

/-- A record that was written has a keyset for its key. -/
theorem exists_keys (h : Chronicle past) (hr : r ∈ written past) :
    ∃ keys, keysAfter r.identity.keyId past = some keys := by
  have hmem : r ∈ writes r.identity past := mem_writes_iff.2 ⟨hr, rfl⟩
  have hrec : recordAfter r.identity past ≠ none :=
    fun hn => by simp [recordAfter_eq_none_iff.1 hn] at hmem
  exact Option.ne_none_iff_exists'.1 (h.keysAfter_ne_none hrec)

/-- What holds of a record when it is written, and is kept by everything but
another write of its identity, holds of every stored record. -/
theorem stored_induction {P : List Occurrence → Record → Prop}
    (write : ∀ o past new, Chronicle (o :: past) → o.written? = some new →
      (∀ old, recordAfter new.identity past = some old → P past old) → P (o :: past) new)
    (keep : ∀ o past r, (∀ new, o.written? = some new → new.identity ≠ r.identity) → P past r →
      P (o :: past) r)
    (h : Chronicle past) (hr : recordAfter i past = some r) : P past r := by
  induction past generalizing i r with
  | nil => cases hr
  | cons o past ih =>
    cases hw : o.written? with
    | none =>
      rw [recordAfter_cons_of_none hw] at hr
      exact keep o past r (by simp [hw]) (ih h.tail hr)
    | some new =>
      rw [recordAfter_cons_of_some hw] at hr
      by_cases hi : i = new.identity
      · rw [if_pos hi] at hr
        cases hr
        exact write o past r h hw fun old hold => ih h.tail hold
      · rw [if_neg hi] at hr
        refine keep o past r ?_ (ih h.tail hr)
        intro other hother heq
        rw [hw] at hother
        cases hother
        exact hi ((identity_of_recordAfter hr).symm.trans heq.symm)

end Chronicle

end Enrolment
