import Enrolment.Proofs.Passages
import Enrolment.Proofs.Standing
import Enrolment.Proofs.Stretches

/-!
# Registrations are made once

Any number of calls may make the same registration at a time, of different parts.
One of them inserts the record and starts the round.  The others are told that
there is a record, and look at it; by then it may have been changed, or replaced by
another registration.

A call does few things to records and rounds, and they tell how far it has come.
So of all the calls only the one that inserted the record starts a round, and it
does so in the same stretch.

## Main definitions

* `insertions`, `roundStarts` — what all the calls that make one registration have
  written, and the rounds that they have started.
* `deeds` — what a task has done to records and rounds.
* `Creating` — how far a call that makes a registration has come.
* `NoUpdate` — in the meantime the registration was not replaced.
* `World.CreatedBy` — one of the calls has made the registration.

## Main statements

* `Chronicle.insertions_cases` — a record that is stored was inserted once.
* `Service.creating_of_follows` — every such call has come so far.
* `World.Reachable.exists_createdBy` — one of the calls has made the registration.
* `World.CreatedBy.started` — it has started the one round, if nobody is about to.
* `World.Reachable.again` — making the same registration again changes nothing.
* `World.Unbroken.created_once` — a registration is made once.
-/

namespace Enrolment

variable {task : Task} {past start earlier : List Occurrence} {o : Occurrence} {i : Identity}
  {role : String} {payload : Payload} {r old next new : Record} {k : Nat}

/-! ## Making one registration -/

/-- The call makes the registration of the identity. -/
def Service.Call.creates (i : Identity) : Service.Call → Bool
  | create j .. => j = i
  | _ => false

theorem Service.Call.creates_iff {c : Service.Call} :
    c.creates i = true ↔ ∃ role payload, c = .create i role payload := by
  cases c <;> simp [creates]

/-- What the calls that make the registration of an identity have written. -/
def insertions (i : Identity) (past : List Occurrence) : List Occurrence :=
  past.filter fun o => o.task.call.creates i && o.written?.isSome

theorem mem_insertions_iff : o ∈ insertions i past ↔
    o ∈ past ∧ o.task.call.creates i = true ∧ o.written?.isSome = true := by
  simp [insertions]

/-- The rounds that the calls that make the registration of an identity have
started. -/
def roundStarts (i : Identity) (past : List Occurrence) : List Occurrence :=
  past.filter fun o => o.task.call.creates i && o.startsRound

/-- A call that makes a registration changes none. -/
theorem Revision.creates_eq_false (h : Revision task past old next) :
    task.call.creates i = false := by
  cases h with
  | remade hc | challenged hc | pushed hc | accepted hc | rejected hc =>
    simp [hc, Service.Call.creates]

/-- What a call that makes a registration writes is the first record of its
identity. -/
theorem Chronicle.missing_of_creates (h : Chronicle (o :: past))
    (hc : o.task.call.creates i = true) (hw : o.written? = some new) :
    new.identity = i ∧ recordAfter i past = none := by
  obtain ⟨role, payload, hcall⟩ := Service.Call.creates_iff.1 hc
  cases h.commit hw with
  | made hc' _ _ hn =>
    cases hcall.symm.trans hc'
    exact ⟨rfl, hn⟩
  | revised _ hrev =>
    rw [hrev.creates_eq_false] at hc
    cases hc

/-- What any other task writes leaves a record missing that is missing. -/
theorem Chronicle.missing_cons (h : Chronicle (o :: past)) (hn : recordAfter i past = none)
    (hc : o.task.call.creates i = true → o.written? = none) : recordAfter i (o :: past) = none := by
  cases hw : o.written? with
  | none => rw [recordAfter_cons_of_none hw, hn]
  | some new =>
    rw [recordAfter_cons_of_some hw, hn]
    refine if_neg ?_
    rintro rfl
    cases h.commit hw with
    | made hcall _ _ _ => simp [hc (Service.Call.creates_iff.2 ⟨_, _, hcall⟩)] at hw
    | revised ho hrev =>
      have hold : recordAfter _ past = none := hrev.identity_eq ▸ hn
      rw [ho] at hold
      cases hold

/-- Exactly one of the calls has inserted the record, if there is one. -/
theorem Chronicle.insertions_cases (h : Chronicle past) (i : Identity) :
    (recordAfter i past = none ∧ insertions i past = []) ∨
      (recordAfter i past ≠ none ∧ ∃ o, insertions i past = [o]) := by
  induction past with
  | nil => exact .inl ⟨rfl, rfl⟩
  | cons o past ih =>
    by_cases ho : (o.task.call.creates i && o.written?.isSome) = true
    · obtain ⟨hc, hw⟩ := (Bool.and_eq_true _ _).mp ho
      obtain ⟨new, hw⟩ := Option.isSome_iff_exists.1 hw
      obtain ⟨rfl, hmissing⟩ := h.missing_of_creates hc hw
      rcases ih h.tail with ⟨-, hnil⟩ | ⟨hstored, -⟩
      · have hcons : insertions new.identity (o :: past) = o :: insertions new.identity past :=
          List.filter_cons_of_pos ho
        exact .inr ⟨by simp [recordAfter_cons_of_some hw], o, by rw [hcons, hnil]⟩
      · exact absurd hmissing hstored
    · have hcons : insertions i (o :: past) = insertions i past := List.filter_cons_of_neg ho
      rw [hcons]
      rcases ih h.tail with ⟨hmissing, hnil⟩ | ⟨hstored, hone⟩
      · exact .inl ⟨h.missing_cons hmissing fun hc => by simpa [hc] using ho, hnil⟩
      · exact .inr ⟨recordAfter_ne_none_mono (List.suffix_cons o past) hstored, hone⟩

/-! ## What a task does to records and rounds -/

/-- The occurrence meets a record or starts a round. -/
def Occurrence.isDeed : Occurrence → Bool
  | begun _ => false
  | answered _ ask _ => ask.isAccess || ask.starts

/-- What a task has done to records and rounds, the latest first. -/
def deeds (k : Nat) (past : List Occurrence) : List Occurrence :=
  past.filter fun o => o.task.number = k && o.isDeed

theorem mem_deeds_iff : o ∈ deeds k past ↔ o ∈ past ∧ o.task.number = k ∧ o.isDeed = true := by
  simp [deeds]

theorem Occurrence.isDeed_of_startsRound (h : o.startsRound = true) : o.isDeed = true := by
  cases o with
  | begun task => cases h
  | answered task ask reply => exact Bool.or_eq_true_iff.2 (.inr h)

theorem Occurrence.isDeed_of_written (h : o.written?.isSome = true) : o.isDeed = true := by
  obtain ⟨new, hw⟩ := Option.isSome_iff_exists.1 h
  have ha := isAccess_of_written hw
  cases o with
  | begun task => cases hw
  | answered task ask reply => exact Bool.or_eq_true_iff.2 (.inl ha)

theorem deeds_of_since (h : Since k (·.isDeed = false) earlier past) :
    deeds k past = deeds k earlier := by
  obtain ⟨more, rfl, h⟩ := h
  have hmore : deeds k more = [] := by
    refine List.filter_eq_nil_iff.2 fun o ho => ?_
    by_cases hk : o.task.number = k
    · simp [hk, h o ho hk]
    · simp [hk]
  have happend : deeds k (more ++ earlier) = deeds k more ++ deeds k earlier :=
    List.filter_append ..
  rw [happend, hmore, List.nil_append]

theorem deeds_of_byOthers (h : ByOthers k earlier past) : deeds k past = deeds k earlier :=
  deeds_of_since (h.mono fun _ => False.elim)

theorem deeds_answered {ask : Ask} {reply : ask.Reply} (ha : (ask.isAccess || ask.starts) = true) :
    deeds task.number (.answered task ask reply :: past) =
      .answered task ask reply :: deeds task.number past :=
  List.filter_cons_of_pos (by simpa [Occurrence.task, Occurrence.isDeed] using ha)

/-- What a task is told about keysets is no deed. -/
theorem Occurrence.isDeed_of_isOfKeys {ask : Ask} (h : ask.isOfKeys = true) (reply : ask.Reply) :
    (answered task ask reply).isDeed = false := by
  cases ask with
  | storedKeys | offerKeys | keysAtHand | keepKeys | freshKeys => rfl
  | _ => cases h

/-- A task has done nothing before it began. -/
theorem Chronicle.deeds_begun (h : Chronicle (.begun task :: past)) :
    deeds task.number (.begun task :: past) = [] := by
  cases h with
  | begun _ _ hf =>
    refine List.filter_eq_nil_iff.2 fun o ho => ?_
    rcases List.mem_cons.1 ho with rfl | ho
    · simp [Occurrence.isDeed]
    · simp [hf o ho]

/-! ## How far a call has come -/

/-- The call has inserted the record where there was none. -/
structure Inserts (task : Task) (i : Identity) (role : String) (payload : Payload)
    (past : List Occurrence) (fresh : Record) (earlier : List Occurrence) : Prop where
  /-- The record was made of the parts. -/
  made : ∃ now, Record.make i role payload now = .ok fresh
  /-- The insertion is one of those that happened. -/
  suffix : (.answered task (.insert fresh) (.ok { fresh with version := 1 }) :: earlier) <:+ past
  /-- There was no record. -/
  missing : recordAfter i earlier = none

theorem Inserts.stored {fresh : Record} (h : Inserts task i role payload past fresh earlier) :
    recordAfter i (.answered task (.insert fresh) (.ok { fresh with version := 1 }) :: earlier) =
      some { fresh with version := 1 } := by
  obtain ⟨now, hm⟩ := h.made
  obtain rfl := (Record.make_eq_ok_iff.1 hm).2
  rw [recordAfter_cons_of_some rfl]
  exact if_pos rfl

/-- The record that a call inserts registers what the call gives. -/
theorem Inserts.sameRegistration {fresh : Record}
    (h : Inserts task i role payload past fresh earlier) :
    Record.sameRegistration { fresh with version := 1 } role payload = true := by
  obtain ⟨now, hm⟩ := h.made
  obtain rfl := (Record.make_eq_ok_iff.1 hm).2
  simp [Record.sameRegistration, Record.fresh]

theorem Inserts.mem_insertions {fresh : Record}
    (h : Inserts task i role payload past fresh earlier) (hc : task.call.creates i = true) :
    .answered task (.insert fresh) (.ok { fresh with version := 1 }) ∈ insertions i past :=
  mem_insertions_iff.2 ⟨h.suffix.subset List.mem_cons_self, hc, rfl⟩

/-- How far a call that makes a registration has come. -/
inductive Creating (task : Task) (i : Identity) (role : String) (payload : Payload)
    (past : List Occurrence) : Plan (Except ServiceError Record) → Prop
  /-- It has met no record, or the parts did not pass their checks. -/
  | preparing {rest : Plan (Except ServiceError Record)} (hd : deeds task.number past = [])
      (hr : ∀ res, rest = .done res → ∃ e now, Record.make i role payload now = .error e) :
      Creating task i role payload past rest
  /-- It has inserted the record and starts a round next. -/
  | inserted {fresh : Record} {earlier : List Occurrence}
      (hi : Inserts task i role payload past fresh earlier)
      (hd : deeds task.number past =
        [.answered task (.insert fresh) (.ok { fresh with version := 1 })]) :
      Creating task i role payload past (.step (.schedule { fresh with version := 1 } .initial)
        fun _ => .done (.ok { fresh with version := 1 }))
  /-- It has inserted the record and started a round. -/
  | started {fresh : Record} {earlier : List Occurrence}
      (hi : Inserts task i role payload past fresh earlier)
      (hd : deeds task.number past =
        [.answered task (.schedule { fresh with version := 1 } .initial) (),
          .answered task (.insert fresh) (.ok { fresh with version := 1 })]) :
      Creating task i role payload past (.done (.ok { fresh with version := 1 }))
  /-- There was a record, and it looks at it next. -/
  | refused {fresh : Record} {next : Except StoreError Record → Plan (Except ServiceError Record)}
      (hd : deeds task.number past =
        [.answered task (.insert fresh) (.error (.alreadyExists fresh.identity))]) :
      Creating task i role payload past (.step (.lookup i) next)
  /-- There was a record, and it has compared it with its own. -/
  | compared {fresh existing : Record} {earlier : List Occurrence}
      (hs : (.answered task (.lookup i) (.ok existing) :: earlier) <:+ past)
      (hi : recordAfter i earlier = some existing)
      (hd : deeds task.number past = [.answered task (.lookup i) (.ok existing),
        .answered task (.insert fresh) (.error (.alreadyExists fresh.identity))]) :
      Creating task i role payload past (.done
        (if existing.sameRegistration role payload then .ok existing else .error (.conflict i)))

namespace Service

/-- The rest of making a registration, once the store has answered. -/
def afterInsert (i : Identity) (role : String) (payload : Payload) :
    Except StoreError Record → Operation Record
  | .ok stored => do
    Operation.ask (.schedule stored .initial)
    return stored
  | .error (.alreadyExists _) => do
    let existing ← Operation.ofStore (← Operation.ask (.lookup i))
    if existing.sameRegistration role payload then return existing
    else throw (.conflict i)
  | .error e => throw (.ofStore e)

theorem create_eq : create i role payload = (do
    let now ← Operation.ask .clock
    let fresh ← Operation.ofExcept .validation (Record.make i role payload now)
    let _ ← Keys.ensure i.keyId
    afterInsert i role payload (← Operation.ask (.insert fresh))) := by
  rw [create]
  congr! with now fresh keys put
  rcases put with (_ | _ | _ | _) | stored <;> rfl

/-- A call that has inserted the record starts a round next, or has started it. -/
theorem creating_of_inserted {fresh : Record} {rest : Plan (Except ServiceError Record)}
    (h : Follows task (afterInsert i role payload (.ok { fresh with version := 1 })).run start past
      rest)
    (hi : Inserts task i role payload past fresh earlier)
    (hd : deeds task.number start =
      [.answered task (.insert fresh) (.ok { fresh with version := 1 })]) :
    Creating task i role payload past rest := by
  have hplan : Follows task (.step (.schedule { fresh with version := 1 } .initial)
    fun _ => .done (.ok { fresh with version := 1 })) start past rest := h
  rcases hplan.step_cases with ⟨rfl, ho⟩ | ⟨mid, ⟨⟩, ho, hn⟩
  · exact .inserted hi (by rw [deeds_of_byOthers ho, hd])
  · obtain ⟨rfl, ho'⟩ := hn.done_cases
    refine .started hi ?_
    rw [deeds_of_byOthers ho', deeds_answered rfl, deeds_of_byOthers ho, hd]

/-- A call that was told that there is a record looks at it next, or has compared
it. -/
theorem creating_of_refused {fresh : Record} {rest : Plan (Except ServiceError Record)}
    (h : Follows task (afterInsert i role payload (.error (.alreadyExists fresh.identity))).run
      start past rest)
    (hc : Chronicle past) (hstored : recordAfter i start ≠ none)
    (hd : deeds task.number start =
      [.answered task (.insert fresh) (.error (.alreadyExists fresh.identity))]) :
    Creating task i role payload past rest := by
  have hplan : Follows task (Operation.ask (.lookup i) >>= fun found => do
    let existing ← Operation.ofStore found
    if existing.sameRegistration role payload then return existing
    else throw (.conflict i)).run start past rest := h
  rcases hplan.operation_step_cases with ⟨⟨next, rfl⟩, ho⟩ | ⟨mid, found, ho, hn⟩
  · exact .refused (by rw [deeds_of_byOthers ho, hd])
  · rcases hc.told hn.suffix with ⟨hnone, -⟩ | ⟨existing, hexisting, rfl⟩
    · exact absurd hnone (recordAfter_ne_none_mono ho.suffix hstored)
    · have hend : Follows task (.done (if existing.sameRegistration role payload then .ok existing
          else .error (.conflict i))) (.answered task (.lookup i) (.ok existing) :: mid) past
            rest := by
        rw [Operation.ofStore_ok, pure_bind] at hn
        split at hn <;> simp only [*, if_true] <;> exact hn
      obtain ⟨rfl, ho'⟩ := hend.done_cases
      have hdeeds : deeds task.number past = [.answered task (.lookup i) (.ok existing),
          .answered task (.insert fresh) (.error (.alreadyExists fresh.identity))] := by
        rw [deeds_of_byOthers ho', deeds_answered rfl, deeds_of_byOthers ho, hd]
      exact .compared hn.suffix hexisting hdeeds

/-- The answer of the store tells how far the call has come. -/
theorem creating_of_insert {put : Except StoreError Record}
    {rest : Plan (Except ServiceError Record)}
    (h : Follows task (afterInsert i role payload put).run
      (.answered task (.insert r) put :: earlier) past rest) (hc : Chronicle past)
    (hm : ∃ now, Record.make i role payload now = .ok r)
    (hd : deeds task.number earlier = []) : Creating task i role payload past rest := by
  have hfirst : deeds task.number (.answered task (.insert r) put :: earlier) =
      [.answered task (.insert r) put] := by
    rw [deeds_answered rfl, hd]
  have hi : r.identity = i := by
    obtain ⟨now, hnow⟩ := hm
    exact (Record.make_eq_ok_iff.1 hnow).2 ▸ rfl
  rcases hc.told h.suffix with ⟨hmissing, rfl⟩ | ⟨hstored, rfl⟩
  · exact creating_of_inserted h ⟨hm, h.suffix, hi ▸ hmissing⟩ hfirst
  · refine creating_of_refused h hc ?_ hfirst
    rw [recordAfter_cons_of_none rfl]
    exact hi ▸ hstored

/-- How far a call has come that follows its plan. -/
theorem creating_of_follows {rest : Plan (Except ServiceError Record)}
    (hcall : task.call = .create i role payload)
    (h : Follows task (create i role payload).run (.begun task :: earlier) past rest)
    (hc : Chronicle past) : Creating task i role payload past rest := by
  have hnone : deeds task.number (.begun task :: earlier) = [] :=
    (hc.of_suffix h.suffix).deeds_begun
  rw [create_eq] at h
  rcases h.operation_step_cases with ⟨⟨next, rfl⟩, ho⟩ | ⟨mid, now, ho, h⟩
  · exact .preparing (by rw [deeds_of_byOthers ho, hnone]) fun _ hrest => by cases hrest
  have hclock : deeds task.number (.answered task .clock now :: mid) = [] := by
    have hs : Since task.number (·.isDeed = false) mid (.answered task .clock now :: mid) :=
      (Since.refl mid).cons fun _ => rfl
    rw [deeds_of_since hs, deeds_of_byOthers ho, hnone]
  cases hm : Record.make i role payload now with
  | error e =>
    rw [hm, Operation.ofExcept_error, Operation.throw_bind] at h
    obtain ⟨rfl, ho⟩ := h.done_cases
    exact .preparing (by rw [deeds_of_byOthers ho, hclock]) fun _ _ => ⟨e, now, hm⟩
  | ok fresh =>
  rw [hm, Operation.ofExcept_ok, pure_bind] at h
  have hensure {later : List Occurrence} {rest : Plan (Except ServiceError PublicKeys)}
      (h : Follows task (Keys.ensure i.keyId).run (.answered task .clock now :: mid) later rest) :
      deeds task.number later = [] := by
    have hs := (h.since (Keys.ofKeys_ensure i.keyId).run (·.isDeed = false)
      fun _ reply ha => Occurrence.isDeed_of_isOfKeys ha reply).1
    rw [deeds_of_since hs, hclock]
  rcases h.operation_bind_cases with
    ⟨ask, next, hkeys, rfl⟩ | ⟨keys, mid', hkeys, h⟩ | ⟨e, hkeys, rfl⟩
  · exact .preparing (hensure hkeys) fun _ hrest => by cases hrest
  · rcases h.operation_step_cases with ⟨⟨next, rfl⟩, ho⟩ | ⟨mid'', put, ho, h⟩
    · exact .preparing (by rw [deeds_of_byOthers ho, hensure hkeys]) fun _ hrest => by cases hrest
    · exact creating_of_insert h hc ⟨now, hm⟩ (by rw [deeds_of_byOthers ho, hensure hkeys])
  · -- The keys that are needed are found or made.
    have hensures : (Keys.ensure i.keyId).run.Upholds task Proper
        (fun res _ => ∃ keys, res = .ok keys) (.answered task .clock now :: mid) :=
      (Keys.upholds_ensure hcall).run.mono fun _ _ _ hq => hq.2.1
    obtain ⟨_, hok⟩ := hkeys.upholds hc hensures fun _ _ _ _ hq => hq
    cases hok

end Service

/-! ## Without replacements -/

/-- In the meantime no call that replaces the registration has written its
record. -/
def NoUpdate (i : Identity) (earlier past : List Occurrence) : Prop :=
  ∃ more, past = more ++ earlier ∧ ∀ o ∈ more, ∀ new, o.written? = some new → new.identity = i →
    ∀ role payload, o.task.call ≠ .update i role payload

theorem NoUpdate.of_suffix {later : List Occurrence} (h : NoUpdate i earlier later)
    (hs : past <:+ later) (he : earlier <:+ past) : NoUpdate i earlier past := by
  obtain ⟨more, rfl, hmore⟩ := h
  obtain ⟨rest, hrest⟩ := hs
  obtain ⟨own, rfl⟩ := he
  have heq : rest ++ own = more := List.append_left_injective earlier (by simpa using hrest)
  exact ⟨own, rfl, fun o ho => hmore o (heq ▸ List.mem_append_right rest ho)⟩

/-- A registration that is not replaced stays the same. -/
theorem Chronicle.sameRegistration_of_noUpdate (h : Chronicle past)
    (hr : recordAfter i earlier = some old) (hno : NoUpdate i earlier past) :
    ∃ r, recordAfter i past = some r ∧
      ∀ role payload, r.sameRegistration role payload = old.sameRegistration role payload := by
  obtain ⟨more, rfl, hmore⟩ := hno
  refine h.kept_since (P := fun r =>
    ∀ role payload, r.sameRegistration role payload = old.sameRegistration role payload) hr
      (fun _ _ => rfl) ?_
  rintro o ho past stored next - hrev ⟨new, hw, hi⟩ hid hsame
  rcases hrev.parts with ⟨-, hrole, hpayload⟩ | ⟨-, hcall, -⟩
  · intro role payload
    rw [← hsame, Record.sameRegistration, Record.sameRegistration, hrole, hpayload]
  · rw [hid] at hcall
    exact absurd hcall (hmore o ho new hw hi _ _)

/-! ## Runs -/

namespace World

variable {w w' v : World} {n p : Nat} {s : Service} {founder : Task} {stored : Record}

/-- On the way to the world the task looked at the record of the identity, and
it was stored just then. -/
def LookedUp (w : World) (task : Task) (i : Identity) (r : Record) : Prop :=
  ∃ (v : World) (earlier : List Occurrence), v.Amid task w ∧
    v.past = .answered task (.lookup i) (.ok r) :: earlier ∧ v.store.get? i = some r

/-- One of the calls that make the registration of an identity has made it. -/
structure CreatedBy (w : World) (i : Identity) (founder : Task) (stored : Record) : Prop where
  /-- Of all these calls it alone has inserted a record, and it has done so once. -/
  inserted : ∃ fresh, insertions i w.past = [.answered founder (.insert fresh) (.ok stored)]
  /-- Together they have started no round but one, an initial one for this record. -/
  starts : (roundStarts i w.past).Sublist [.answered founder (.schedule stored .initial) ()]
  /-- When it is over, it has started the round and ended with the record.  Any
  other call whose parts pass the checks has looked at the stored record, and ends
  with it if it registers the same, and with a conflict otherwise. -/
  ended : ∀ n p s role payload res,
    (⟨⟨n, p, s, .create i role payload⟩, .done res⟩ : Running) ∈ w.running →
    i.check = .ok () → checkRole role = .ok () → payload.check = .ok () →
      ((⟨n, p, s, .create i role payload⟩ : Task) = founder ∧ res = .ok stored ∧
        roundStarts i w.past = [.answered founder (.schedule stored .initial) ()]) ∨
      ((⟨n, p, s, .create i role payload⟩ : Task) ≠ founder ∧
        ∃ r, w.LookedUp ⟨n, p, s, .create i role payload⟩ i r ∧
          res = if r.sameRegistration role payload then .ok r else .error (.conflict i))

theorem Reachable.creating (h : w.Reachable) {rest : Plan (Except ServiceError Record)}
    (hr : (⟨⟨n, p, s, .create i role payload⟩, rest⟩ : Running) ∈ w.running) :
    Creating ⟨n, p, s, .create i role payload⟩ i role payload w.past rest := by
  obtain ⟨before, hf⟩ := (h.course hr).follows
  exact Service.creating_of_follows rfl hf h.sound.chronicle

/-- Every call that makes a registration and did something has come so far. -/
theorem Reachable.exists_creating (h : w.Reachable) (ho : o ∈ w.past)
    (hc : o.task.call.creates i = true) : ∃ n p s role payload rest,
      o.task = ⟨n, p, s, .create i role payload⟩ ∧
      (⟨⟨n, p, s, .create i role payload⟩, rest⟩ : Running) ∈ w.running ∧
      Creating ⟨n, p, s, .create i role payload⟩ i role payload w.past rest := by
  obtain ⟨⟨⟨n, p, s, c⟩, rest⟩, hmem, htask⟩ := List.mem_map.1 (h.sound.known o ho)
  rw [← htask] at hc
  obtain ⟨role, payload, rfl⟩ := Service.Call.creates_iff.1 hc
  exact ⟨n, p, s, role, payload, rest, htask.symm, hmem, h.creating hmem⟩

/-- Whoever started a round has inserted the record. -/
theorem Reachable.insertion_of_start (h : w.Reachable) (ho : o ∈ w.past)
    (hc : o.task.call.creates i = true) (hs : o.startsRound = true) :
    ∃ x ∈ insertions i w.past, x.task = o.task := by
  obtain ⟨n, p, s, role, payload, rest, htask, -, hcr⟩ := h.exists_creating ho hc
  have hdeed : o ∈ deeds n w.past :=
    mem_deeds_iff.2 ⟨ho, htask ▸ rfl, Occurrence.isDeed_of_startsRound hs⟩
  cases hcr with
  | started hi _ =>
    exact ⟨_, hi.mem_insertions (htask ▸ hc), htask.symm⟩
  | preparing hd => simp [hd] at hdeed
  | inserted _ hd | refused hd | compared _ _ hd =>
    rw [hd] at hdeed
    simp only [List.mem_cons, List.not_mem_nil, or_false] at hdeed
    rcases hdeed with rfl | rfl <;> cases hs

/-- The rounds that were started are those of the task that inserted the
record. -/
theorem Reachable.roundStarts_eq (h : w.Reachable) (hone : insertions i w.past = [o]) :
    roundStarts i w.past = (deeds o.task.number w.past).filter (·.startsRound) := by
  obtain ⟨ho, hc, -⟩ := mem_insertions_iff.1 (hone ▸ List.mem_singleton_self o)
  rw [deeds, List.filter_filter]
  refine List.filter_congr fun x hx => ?_
  cases hs : x.startsRound with
  | false => simp
  | true =>
    rw [Occurrence.isDeed_of_startsRound hs, Bool.and_true, Bool.and_true, Bool.true_and]
    apply Bool.eq_iff_iff.2
    rw [decide_eq_true_iff]
    constructor
    · intro hx'
      obtain ⟨y, hy, htask⟩ := h.insertion_of_start hx hx' hs
      rw [hone] at hy
      rw [← htask, List.mem_singleton.1 hy]
    · intro hn
      rw [h.sound.task_eq_of_number_eq hx ho hn]
      exact hc

/-- The call that has inserted the record has started the round, or it does so
next. -/
theorem Reachable.founder_cases (h : w.Reachable) (hone : insertions i w.past = [o]) :
    ∃ n p s role payload fresh earlier rest, let founder : Task := ⟨n, p, s, .create i role payload⟩
      let stored : Record := { fresh with version := 1 }
      (⟨founder, rest⟩ : Running) ∈ w.running ∧
      Inserts founder i role payload w.past fresh earlier ∧
      o = .answered founder (.insert fresh) (.ok stored) ∧
      ((deeds n w.past = [o] ∧ ∃ next, rest = .step (.schedule stored .initial) next) ∨
        deeds n w.past = [.answered founder (.schedule stored .initial) (), o]) := by
  obtain ⟨ho, hc, hw⟩ := mem_insertions_iff.1 (hone ▸ List.mem_singleton_self o)
  obtain ⟨n, p, s, role, payload, rest, htask, hmem, hcr⟩ := h.exists_creating ho hc
  have hdeed : o ∈ deeds n w.past :=
    mem_deeds_iff.2 ⟨ho, htask ▸ rfl, Occurrence.isDeed_of_written hw⟩
  refine ⟨n, p, s, role, payload, ?_⟩
  cases hcr with
  | @inserted fresh earlier hi hd =>
    rw [hd] at hdeed
    obtain rfl := List.mem_singleton.1 hdeed
    exact ⟨fresh, earlier, _, hmem, hi, rfl, .inl ⟨hd, _, rfl⟩⟩
  | @started fresh earlier hi hd =>
    rw [hd] at hdeed
    simp only [List.mem_cons, List.not_mem_nil, or_false] at hdeed
    rcases hdeed with rfl | rfl
    · cases hw
    · exact ⟨fresh, earlier, _, hmem, hi, rfl, .inr hd⟩
  | preparing hd => simp [hd] at hdeed
  | refused hd | compared _ _ hd =>
    rw [hd] at hdeed
    simp only [List.mem_cons, List.not_mem_nil, or_false] at hdeed
    rcases hdeed with rfl | rfl <;> cases hw

/-- A look at a record of which nothing else is known was one at the stored
record. -/
theorem Reachable.lookedUp (h : w.Reachable)
    (hs : (.answered task (.lookup i) (.ok r) :: earlier) <:+ w.past)
    (hr : recordAfter i earlier = some r) : w.LookedUp task i r := by
  obtain ⟨v, hamid, hpast⟩ := h.exists_amid hs rfl
  refine ⟨v, earlier, hamid, hpast, ?_⟩
  rw [hamid.reachable.sound.get?_eq, hpast, recordAfter_cons_of_none rfl, hr]

/-- A call that is over, and whose parts pass the checks, has inserted the record
and started a round, or has compared the record that it found. -/
theorem Reachable.ended_cases (h : w.Reachable) {res : Except ServiceError Record}
    (hd : (⟨⟨n, p, s, .create i role payload⟩, .done res⟩ : Running) ∈ w.running)
    (hcheck : i.check = .ok ()) (hrole : checkRole role = .ok ())
    (hpayload : payload.check = .ok ()) :
    let task : Task := ⟨n, p, s, .create i role payload⟩
    (∃ fresh earlier, Inserts task i role payload w.past fresh earlier ∧
      res = .ok { fresh with version := 1 } ∧
      deeds n w.past = [.answered task (.schedule { fresh with version := 1 } .initial) (),
        .answered task (.insert fresh) (.ok { fresh with version := 1 })]) ∨
    ∃ fresh existing, w.LookedUp task i existing ∧
      res = (if existing.sameRegistration role payload then .ok existing
        else .error (.conflict i)) ∧
      deeds n w.past = [.answered task (.lookup i) (.ok existing),
        .answered task (.insert fresh) (.error (.alreadyExists fresh.identity))] := by
  intro task
  cases h.creating hd with
  | preparing _ hr =>
    obtain ⟨e, now, hm⟩ := hr res rfl
    rw [Record.make_eq_ok_iff.2 ⟨⟨hcheck, hrole, hpayload⟩, rfl⟩] at hm
    cases hm
  | started hins hdeeds => exact .inl ⟨_, _, hins, rfl, hdeeds⟩
  | compared hs hexisting hdeeds => exact .inr ⟨_, _, h.lookedUp hs hexisting, rfl, hdeeds⟩

/-- A stored record was inserted by one of the calls that make it. -/
theorem Reachable.exists_createdBy (h : w.Reachable) (hi : recordAfter i w.past ≠ none) :
    ∃ founder stored, w.CreatedBy i founder stored := by
  rcases h.sound.chronicle.insertions_cases i with ⟨hnone, -⟩ | ⟨-, o, hone⟩
  · exact absurd hnone hi
  obtain ⟨n, p, s, role, payload, fresh, earlier, rest, hmem, hins, rfl, hdeeds⟩ :=
    h.founder_cases hone
  have hstarts : roundStarts i w.past = (deeds n w.past).filter (·.startsRound) :=
    h.roundStarts_eq hone
  refine ⟨_, _, ⟨fresh, hone⟩, ?_, ?_⟩
  · rw [hstarts]
    rcases hdeeds with ⟨hd, -⟩ | hd <;> rw [hd]
    · exact List.nil_sublist _
    · exact List.Sublist.refl _
  · intro n' p' s' role' payload' res hd hcheck hrole hpayload
    rcases h.ended_cases hd hcheck hrole hpayload with
      ⟨fresh', earlier', hins', rfl, hd'⟩ | ⟨fresh', existing, hlooked, rfl, hd'⟩
    · have hmem' := hins'.mem_insertions (i := i) (by simp [Service.Call.creates])
      rw [hone] at hmem'
      cases List.mem_singleton.1 hmem'
      refine .inl ⟨rfl, rfl, ?_⟩
      exact hstarts.trans (congrArg (List.filter (·.startsRound)) hd')
    · refine .inr ⟨?_, existing, hlooked, rfl⟩
      intro heq
      cases heq
      rcases hdeeds with ⟨hd, -⟩ | hd <;> simp [hd] at hd'

/-- The same call has made it for good. -/
theorem CreatedBy.unique {founder' : Task} {stored' : Record} (h : w.CreatedBy i founder stored)
    (h' : w'.CreatedBy i founder' stored') (hl : w.Leads w') :
    founder' = founder ∧ stored' = stored := by
  obtain ⟨fresh, hone⟩ := h.inserted
  obtain ⟨fresh', hone'⟩ := h'.inserted
  obtain ⟨more, hmore⟩ := hl.past
  have happend : insertions i w'.past = insertions i more ++ insertions i w.past := by
    rw [← hmore]
    exact List.filter_append ..
  rw [hone, hone'] at happend
  have hlast := congrArg List.getLast? happend
  rw [List.getLast?_singleton, List.getLast?_concat] at hlast
  cases hlast
  exact ⟨rfl, rfl⟩

/-- If no call is about to start a round, the one round was started. -/
theorem CreatedBy.started (hc : w.CreatedBy i founder stored) (h : w.Reachable)
    (hrest : w.AtRest) :
    roundStarts i w.past = [.answered founder (.schedule stored .initial) ()] := by
  obtain ⟨fresh, hone⟩ := hc.inserted
  obtain ⟨n, p, s, role, payload, fresh', earlier, rest, hmem, -, heq, hdeeds⟩ :=
    h.founder_cases hone
  cases heq
  rcases hdeeds with ⟨-, next, rfl⟩ | hd
  · cases hrest _ hmem
  · have hstarts : roundStarts i w.past = (deeds n w.past).filter (·.startsRound) :=
      h.roundStarts_eq hone
    rw [hstarts, hd]
    rfl

/-- A call that is over, and whose parts pass the checks, has left or found a
record. -/
theorem Reachable.stored_of_done (h : w.Reachable) {res : Except ServiceError Record}
    (hd : (⟨⟨n, p, s, .create i role payload⟩, .done res⟩ : Running) ∈ w.running)
    (hcheck : i.check = .ok ()) (hrole : checkRole role = .ok ())
    (hpayload : payload.check = .ok ()) :
    recordAfter i w.past ≠ none ∧ ∀ r, res = .ok r → ∃ v : World,
      v.Amid ⟨n, p, s, .create i role payload⟩ w ∧ v.store.get? i = some r ∧
        r.sameRegistration role payload = true := by
  obtain ⟨v, r, hamid, hget, hres⟩ : ∃ v r, World.Amid v ⟨n, p, s, .create i role payload⟩ w ∧
      v.store.get? i = some r ∧
      res = if r.sameRegistration role payload then .ok r else .error (.conflict i) := by
    rcases h.ended_cases hd hcheck hrole hpayload with
      ⟨fresh, earlier, hins, rfl, -⟩ | ⟨-, existing, ⟨v, earlier, hamid, -, hget⟩, rfl, -⟩
    · obtain ⟨v, hamid, hpast⟩ := h.exists_amid hins.suffix rfl
      refine ⟨v, _, hamid, ?_, by rw [if_pos hins.sameRegistration]⟩
      rw [hamid.reachable.sound.get?_eq, hpast, hins.stored]
    · exact ⟨v, existing, hamid, hget, rfl⟩
  have hstored : recordAfter i v.past = some r := hamid.reachable.sound.get?_eq i ▸ hget
  refine ⟨recordAfter_ne_none_mono hamid.leads.past (by simp [hstored]), ?_⟩
  intro r' hr'
  by_cases hsame : r.sameRegistration role payload = true
  · rw [hr', if_pos hsame] at hres
    cases hres
    exact ⟨v, hamid, hget, hsame⟩
  · rw [hr', if_neg hsame] at hres
    cases hres

/-- All the other calls that make the registration have written nothing and
started no round. -/
theorem CreatedBy.idle (h : w.CreatedBy i founder stored) (ho : o ∈ w.past)
    (hc : o.task.call.creates i = true) (hne : o.task ≠ founder) :
    o.written? = none ∧ o.startsRound = false := by
  constructor
  · by_contra hwrote
    obtain ⟨fresh, hone⟩ := h.inserted
    have hmem : o ∈ insertions i w.past :=
      mem_insertions_iff.2 ⟨ho, hc, Option.isSome_iff_ne_none.2 hwrote⟩
    rw [hone] at hmem
    exact hne (List.mem_singleton.1 hmem ▸ rfl)
  · by_contra hstarted
    have hmem : o ∈ roundStarts i w.past := by simp_all [roundStarts]
    exact hne (List.mem_singleton.1 (h.starts.subset hmem) ▸ rfl)

/-- Making the same registration again, while nobody replaces it, writes nothing,
starts no round and never fails. -/
theorem Reachable.again (hv : v.Reachable) (hr : v.store.get? i = some r)
    (hsame : r.sameRegistration role payload = true) (hl : v.Leads w)
    (hno : NoUpdate i v.past w.past) (hn : v.running.length ≤ n) (hcheck : i.check = .ok ())
    (hrole : checkRole role = .ok ()) (hpayload : payload.check = .ok ()) :
    (∀ o ∈ w.past, o.task = ⟨n, p, s, .create i role payload⟩ →
      o.written? = none ∧ o.startsRound = false) ∧
    ∀ res, (⟨⟨n, p, s, .create i role payload⟩, .done res⟩ : Running) ∈ w.running →
      ∃ r, res = .ok r := by
  have hw : w.Reachable := Relation.ReflTransGen.trans hv hl
  have hstored : recordAfter i v.past = some r := hv.sound.get?_eq i ▸ hr
  have hne : recordAfter i v.past ≠ none := by simp [hstored]
  obtain ⟨founder, stored, hbefore⟩ := hv.exists_createdBy hne
  obtain ⟨founder', stored', hnow⟩ := hw.exists_createdBy (recordAfter_ne_none_mono hl.past hne)
  obtain ⟨rfl, rfl⟩ := hbefore.unique hnow hl
  -- The record was inserted before this call began.
  have hother : (⟨n, p, s, .create i role payload⟩ : Task) ≠ founder' := by
    rintro rfl
    obtain ⟨fresh, hone⟩ := hbefore.inserted
    have hmem := (mem_insertions_iff.1 (hone ▸ List.mem_singleton_self _)).1
    exact absurd (hv.sound.number_lt_of_past hmem) (Nat.not_lt.2 hn)
  constructor
  · intro o ho ht
    have hc : o.task.call.creates i = true := Service.Call.creates_iff.2 ⟨role, payload, by rw [ht]⟩
    exact hnow.idle ho hc (ht ▸ hother)
  · intro res hd
    rcases hnow.ended n p s role payload res hd hcheck hrole hpayload with
      ⟨heq, -⟩ | ⟨-, r', ⟨v', earlier, hamid, hpast, hr'⟩, rfl⟩
    · exact absurd heq hother
    · -- It looked when the registration was still the same.
      have hsuffix : v'.past <:+ w.past := hamid.leads.past
      have hlater : v.past <:+ v'.past := by
        rcases List.suffix_or_suffix_of_suffix hl.past hsuffix with hs | hs
        · exact hs
        · have hmem := hs.subset (hpast ▸ List.mem_cons_self)
          exact absurd (hv.sound.number_lt_of_past hmem) (Nat.not_lt.2 hn)
      obtain ⟨r'', hstored', hsame'⟩ :=
        hamid.reachable.sound.chronicle.sameRegistration_of_noUpdate hstored
          (hno.of_suffix hsuffix hlater)
      rw [hamid.reachable.sound.get?_eq, hstored'] at hr'
      cases hr'
      rw [if_pos ((hsame' role payload).trans hsame)]
      exact ⟨_, rfl⟩

/-- **A registration is made once.**  When one of the calls is over that make the
registration of an identity, of parts that pass the checks, exactly one of them
has inserted the record, and between them they have started one round, an initial
one; and both for good, in whatever stretches the run goes on.  Every other call
ends with the record that was stored when it looked, if it registers the same, and
otherwise with a conflict.

After a call was given a record, the same call made again, while nobody replaces
the registration, writes nothing, starts no round and never fails. -/
theorem Unbroken.created_once (h : w.Unbroken) {res : Except ServiceError Record}
    (hcheck : i.check = .ok ()) (hrole : checkRole role = .ok ())
    (hpayload : payload.check = .ok ())
    (hd : (⟨⟨n, p, s, .create i role payload⟩, .done res⟩ : Running) ∈ w.running) :
    ∃ (founder : Task) (stored : Record),
      (∀ w', w.Leads w' → w'.CreatedBy i founder stored) ∧
      (∀ w', w.Stretches w' →
        roundStarts i w'.past = [.answered founder (.schedule stored .initial) ()]) ∧
      ∀ r, res = .ok r → ∃ v : World, v.Amid ⟨n, p, s, .create i role payload⟩ w ∧
        v.store.get? i = some r ∧
        ∀ w', v.Leads w' → NoUpdate i v.past w'.past → ∀ n' p' s', v.running.length ≤ n' →
          (∀ o ∈ w'.past, o.task = ⟨n', p', s', .create i role payload⟩ →
            o.written? = none ∧ o.startsRound = false) ∧
          ∀ res', (⟨⟨n', p', s', .create i role payload⟩, .done res'⟩ : Running) ∈ w'.running →
            ∃ r', res' = .ok r' := by
  have hw := h.reachable
  obtain ⟨hne, haccepted⟩ := hw.stored_of_done hd hcheck hrole hpayload
  obtain ⟨founder, stored, hcreated⟩ := hw.exists_createdBy hne
  have hlater {w' : World} (hl : w.Leads w') : w'.CreatedBy i founder stored := by
    have hw' : w'.Reachable := Relation.ReflTransGen.trans hw hl
    obtain ⟨founder', stored', hcreated'⟩ :=
      hw'.exists_createdBy (recordAfter_ne_none_mono hl.past hne)
    obtain ⟨rfl, rfl⟩ := hcreated.unique hcreated' hl
    exact hcreated'
  refine ⟨founder, stored, fun w' hl => hlater hl, ?_, ?_⟩
  · intro w' hl
    exact (hlater hl.leads).started (Relation.ReflTransGen.trans hw hl.leads) (hl.atRest h.atRest)
  · intro r hr
    obtain ⟨v, hamid, hstored, hsame⟩ := haccepted r hr
    refine ⟨v, hamid, hstored, ?_⟩
    intro w' hl hno n' p' s' hn
    exact hamid.reachable.again hstored hsame hl hno hn hcheck hrole hpayload

/-- Two calls make the same registration in different roles.  The second one has
found no keyset when the first one makes the registration. -/
def contested : World := empty.play
  ([.restart .sample, .call 0 (.create sampleIdentity "BAP" (.plain "https://host" "domain")),
    .call 0 (.create sampleIdentity "BPP" (.plain "https://host" "domain"))] ++
    List.replicate 2 (.answer 1 .sample) ++ List.replicate 8 (.answer 0 .sample) ++
    List.replicate 4 (.answer 1 .sample))

/-- The call made a registration, of parts that pass the checks, and came to a
conflict. -/
def isConflict : Running → Bool
  | ⟨⟨_, _, _, .create i role payload⟩, .done (.error (.conflict j))⟩ =>
    i = sampleIdentity && j = sampleIdentity && role = "BPP" && payload.check.isOk
  | _ => false

/-- The first call has made the registration, and the second one came to a
conflict. -/
theorem created_once_contested : ∃ (w : World) (n p : Nat) (s : Service) (payload : Payload)
    (founder : Task) (stored : Record), w.Unbroken ∧
    (⟨⟨n, p, s, .create sampleIdentity "BPP" payload⟩,
      .done (.error (.conflict sampleIdentity))⟩ : Running) ∈ w.running ∧
    w.CreatedBy sampleIdentity founder stored ∧
    roundStarts sampleIdentity w.past = [.answered founder (.schedule stored .initial) ()] := by
  have hunbroken : contested.Unbroken := unbroken_play (by decide +kernel)
  have hconflict : (contested.running[1]?).any isConflict = true := by decide +kernel
  obtain ⟨running, hrunning, hends⟩ := Option.any_eq_true _ _ |>.1 hconflict
  have hmem := List.mem_of_getElem? hrunning
  unfold isConflict at hends
  split at hends
  · simp only [Bool.and_eq_true, decide_eq_true_eq] at hends
    obtain ⟨⟨⟨rfl, rfl⟩, rfl⟩, hok⟩ := hends
    rename_i n p s payload
    have hpayload : payload.check = .ok () := by
      cases hc : payload.check with
      | ok => rfl
      | error e => simp [hc, Except.isOk, Except.toBool] at hok
    obtain ⟨founder, stored, hcreated, hstarted, -⟩ :=
      Unbroken.created_once hunbroken rfl rfl hpayload hmem
    exact ⟨contested, n, p, s, payload, founder, stored, hunbroken, hmem, hcreated _ .refl,
      hstarted _ .refl⟩
  · cases hends

end World

end Enrolment
