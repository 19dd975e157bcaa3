import Enrolment.Proofs.Passages
import Enrolment.Proofs.Seals
import Enrolment.Proofs.Solo
import Enrolment.Proofs.Turns

/-!
# Challenges that were answered

The answer to a challenge is computed from a record that was read some time ago,
and then kept with the record that is stored, which others may have changed by
then, or may be changing.  Still an answer is given only after it was stored: the
last access of the call left it there, or found it.

A call whose last look finds its own answer is over with that look.  The same
challenge has the same answer, so sending it again changes nothing.

## Main definitions

* `Record.Holds` — the registry challenges, and the record holds the answer.
* `LastLook` — what the last look of a task at a record found.
* `Service.findTarget`, `Service.answerFound` — the two parts of answering a
  challenge.
* `Service.Answering` — how far a call came that answers one.
* `OnlyAnswers` — in the meantime only the same challenge was answered.

## Main statements

* `Settled.holds` — an answer that was kept was stored with the last access.
* `LastLook.of_revise` — a look that finds nothing to change is the last one.
* `Chronicle.stored_of_onlyAnswers` — the same challenge changes nothing.
* `Service.solo_answerChallenge` — a challenge that can be opened is answered.
* `World.Reachable.answers_stored` — every answered challenge was the stored
  answer.
-/

namespace Enrolment

variable {task : Task} {past start e : List Occurrence} {i j : Identity} {change : Change}
  {r current : Record} {answer challenge subscriberId : String} {keyId : Option String}
  {now : Moment}

/-! ## Answers that are kept -/

/-- The registry challenges, and the record holds the answer. -/
structure Record.Holds (r : Record) (answer : String) : Prop where
  /-- The registry challenges. -/
  status : r.status = .underSubscription
  /-- The answer is there. -/
  nonce : r.nonce = some answer

/-- A status takes a challenge if there is an edge for it. -/
theorem permit_challenged (status : Status) :
    (∃ e, permit status .challenged = .error e) ∨
      permit status .challenged = .ok (.advance .underSubscription) := by
  cases status <;> simp [permit, react, Except.mapError]

/-- Nothing changes if the answer is there, and only then. -/
theorem keepAnswer_eq_none_iff : keepAnswer answer now r = .ok none ↔ r.Holds answer := by
  constructor
  · intro h
    rcases permit_challenged r.status with ⟨e, he⟩ | hp
    · simp [keepAnswer, he, bind, Except.bind] at h
    · by_cases hn : r.status = .underSubscription ∧ r.nonce = some answer
      · exact ⟨hn.1, hn.2⟩
      · simp [keepAnswer, hp, hn, bind, Except.bind, pure, Except.pure] at h
  · intro h
    have hp : permit .underSubscription .challenged = .ok (.advance .underSubscription) := rfl
    simp [keepAnswer, hp, h.status, h.nonce, bind, Except.bind, pure, Except.pure]

/-- A record that the answer was kept with holds it, and was stored with the last
access. -/
theorem Settled.holds {k : Nat} (h : Settled k i (keepAnswer answer) past (.ok r)) :
    r.Holds answer ∧ ∃ o earlier, lastAccess k past = some (o, earlier) ∧
      recordAfter i (o :: earlier) = some r := by
  cases h with
  | @told o earlier now _ ha _ _ hv =>
    cases hstored : recordAfter i earlier with
    | none =>
      rw [hstored] at hv
      cases hv
    | some current =>
      rw [hstored, Change.verdict, Verdict.given_some] at hv
      cases hch : keepAnswer answer now current with
      | error e => simp [hch, Verdict.fails] at hv
      | ok decided =>
        rw [hch] at hv
        cases decided with
        | none =>
          obtain ⟨hr, hw⟩ := Verdict.mk.inj hv
          cases hr
          refine ⟨keepAnswer_eq_none_iff.1 hch, o, earlier, ha, ?_⟩
          rw [recordAfter_cons_of_none hw.symm, hstored]
        | some next =>
          obtain ⟨-, -, rfl⟩ := keepAnswer_eq_some_iff.1 hch
          obtain ⟨hr, hw⟩ := Verdict.mk.inj hv
          cases hr
          refine ⟨⟨rfl, rfl⟩, o, earlier, ha, ?_⟩
          rw [recordAfter_cons_of_some hw.symm]
          exact if_pos (identity_of_recordAfter hstored).symm

/-! ## Trying a change -/

/-- The rest of a try, once it is known what becomes of the record. -/
def reviseDecided (i : Identity) (change : Change) (rounds : Nat) (current : Record) :
    Option Record → Operation Record
  | none => return current
  | some next => do
    match ← Operation.ask (.replace next current.version) with
    | .ok stored => return stored
    | .error (.versionConflict _ _) => reviseWithin i change rounds
    | .error e => throw (.ofStore e)

theorem reviseWithin_succ {rounds : Nat} : reviseWithin i change (rounds + 1) = (do
    let current ← Operation.ofStore (← Operation.ask (.lookup i))
    let now ← Operation.ask .clock
    reviseDecided i change rounds current (← Operation.ofExcept id (change now current))) := by
  rw [reviseWithin]
  congr! with found current now decided

namespace Follows

/-- A change that is not needed is over with the look at the record that tells
so. -/
theorem reviseWithin_skips {rounds : Nat} {rest : Plan (Except ServiceError Record)}
    (h : Follows task (reviseWithin i change rounds).run start past rest)
    (ho : (.answered task (.lookup j) (.ok current) :: e) <:+ past) (hs : start <:+ e)
    (hskip : j = i → ∀ now, change now current = .ok none) :
    j = i ∧ Follows task (.step .clock fun _ => .done (.ok current))
      (.answered task (.lookup j) (.ok current) :: e) past rest := by
  induction rounds generalizing start with
  | zero => exact (done_not_acting h ho rfl hs).elim
  | succ rounds ih =>
    rw [reviseWithin_succ] at h
    obtain ⟨mid, found, hn, heq | hlater⟩ := operation_reached_cases h ho rfl hs
    · obtain ⟨heq, rfl⟩ := heq
      cases heq
      have hplan : (fun now => (Operation.ofExcept id (change now current) >>=
          reviseDecided i change rounds current).run) = fun _ => Plan.done (.ok current) := by
        funext now
        rw [hskip rfl now]
        rfl
      exact ⟨rfl, hplan ▸ hn⟩
    cases found with
    | error e => exact (done_not_acting hn ho rfl hlater).elim
    | ok looked =>
    rw [Operation.ofStore_ok, pure_bind] at hn
    obtain ⟨mid', now, hn, heq | hlater⟩ := operation_reached_cases hn ho rfl hlater
    · cases heq.1
    cases hch : change now looked with
    | error e =>
      rw [hch] at hn
      exact (done_not_acting hn ho rfl hlater).elim
    | ok decided =>
    rw [hch, Operation.ofExcept_ok, pure_bind] at hn
    cases decided with
    | none => exact (done_not_acting hn ho rfl hlater).elim
    | some next =>
    obtain ⟨mid', put, hn, heq | hlater⟩ := operation_reached_cases hn ho rfl hlater
    · cases heq.1
    cases put with
    | ok stored => exact (done_not_acting hn ho rfl hlater).elim
    | error e =>
      cases e with
      | versionConflict => exact ih hn hlater
      | _ => exact (done_not_acting hn ho rfl hlater).elim

/-- Every change looks at the record. -/
theorem revise_reads {res : Except ServiceError Record}
    (h : Follows task (revise i change).run start past (.done res)) :
    ∃ mid found, start <:+ mid ∧ (.answered task (.lookup i) found :: mid) <:+ past := by
  rw [revise, maxRounds, reviseWithin_succ] at h
  rcases step_cases h with ⟨heq, -⟩ | ⟨mid, found, ho, hn⟩
  · cases heq
  · exact ⟨mid, found, ho.suffix, hn.suffix⟩

end Follows

/-! ## The last look -/

/-- The task looked at the record of an identity. -/
def Occurrence.isRead : Occurrence → Bool
  | .answered _ (.lookup _) _ => true
  | _ => false

/-- What the last look of a task at a record found, and what happened before. -/
def LastLook (task : Task) (i : Identity) (found : Except StoreError Record)
    (earlier past : List Occurrence) : Prop :=
  Since task.number (·.isRead = false) (.answered task (.lookup i) found :: earlier) past

/-- The last look of a change that is over and was not needed then ended it. -/
theorem LastLook.of_revise {res : Except ServiceError Record}
    (hl : LastLook task j (.ok current) e past)
    (h : Follows task (revise i change).run start past (.done res))
    (hskip : j = i → ∀ now, change now current = .ok none) :
    j = i ∧ res = .ok current ∧
      Quiet task.number (.answered task (.lookup j) (.ok current) :: e) past := by
  obtain ⟨mid, found, hs, hlook⟩ := h.revise_reads
  have hstart : start <:+ e := by
    rcases List.suffix_cons_iff.1 (hl.suffix_of_not hlook rfl (by simp [Occurrence.isRead])) with
      heq | hin
    · cases heq
      exact hs
    · exact hs.trans ((List.suffix_cons _ mid).trans hin)
  obtain ⟨hj, hn⟩ := h.reviseWithin_skips hl.suffix hstart hskip
  refine ⟨hj, ?_, ?_⟩
  · rcases hn.step_cases with ⟨heq, -⟩ | ⟨_, _, -, hdone⟩
    · cases heq
    · exact Plan.done.inj hdone.done_cases.1
  · have hasks : (Plan.step .clock fun _ => .done (.ok current)).Asks (·.isAccess = false)
        fun _ : Except ServiceError Record => True := ⟨rfl, fun _ => trivial⟩
    exact (hn.since hasks (·.isAccess = false) fun _ _ ha => ha).1

/-! ## Answering a challenge -/

namespace Service

/-- Find the record that a challenge is for. -/
def findTarget (subscriberId : String) : Option String → Operation Record
  | some keyId => do Operation.ofStore (← Operation.ask (.lookup ⟨subscriberId, keyId⟩))
  | none => findChallenged subscriberId

/-- Answer the challenge of a record that was found. -/
def answerFound (s : Service) (subscriberId challenge : String) (current : Record) :
    Operation String := do
  let _ ← Operation.ofExcept id (permit current.status .challenged)
  let answer ← Challenge.resolve s.registryKey challenge current.identity.keyId
  let _ ← revise ⟨subscriberId, current.identity.keyId⟩ (keepAnswer answer)
  return answer

theorem answerChallenge_eq {s : Service} : s.answerChallenge subscriberId keyId challenge =
    findTarget subscriberId keyId >>= s.answerFound subscriberId challenge := by
  cases keyId <;> rfl

/-- The record that is found is one of the subscriber, and its key has a
keyset. -/
theorem upholds_findTarget {before : List Occurrence}
    (hb : lastAccess task.number past = some (.begun task, before)) :
    (findTarget subscriberId keyId).Upholds task Proper (fun res later =>
      Uncommitted task.number later ∧ ∀ r, res = .ok r → r.identity.subscriberId = subscriberId ∧
        (∀ k, keyId = some k → k = r.identity.keyId) ∧ ∃ keys,
          keysAfter r.identity.keyId later = some keys) past := by
  cases keyId with
  | none =>
    refine upholds_findChallenged.mono ?_
    rintro res later - ⟨hq, hfound⟩
    refine ⟨(uncommitted_of_begun hb).quiet hq, ?_⟩
    intro r hr
    obtain ⟨hsub, hk⟩ := hfound r hr
    exact ⟨hsub, nofun, Option.ne_none_iff_exists'.1 hk⟩
  | some k =>
    apply Operation.Upholds.ask_bind
    intro past₁ h₁ c₁ found ht
    refine ⟨(uncommitted_of_begun hb).quiet h₁.quiet, ?_⟩
    have hu : Uncommitted task.number (.answered task (.lookup ⟨subscriberId, k⟩) found :: past₁) :=
      uncommitted_of_answered rfl rfl (.refl _)
    rcases ht with ⟨-, rfl⟩ | ⟨current, hcur, rfl⟩
    · exact Operation.Upholds.throw ⟨hu, fun _ hr => by cases hr⟩
    · refine Operation.Upholds.pure ⟨hu, ?_⟩
      intro r hr
      cases hr
      have hid : current.identity = ⟨subscriberId, k⟩ := identity_of_recordAfter hcur
      obtain ⟨keys, hk⟩ := Option.ne_none_iff_exists'.1
        (c₁.keysAfter_ne_none (i := ⟨subscriberId, k⟩) (by simp [hcur]))
      rw [hid]
      refine ⟨rfl, ?_, keys, keysAfter_mono (List.suffix_cons _ past₁) hk⟩
      intro k' hk'
      exact (Option.some.inj hk').symm

/-- A look that found a record on the way to it was at the record that the
challenge names. -/
theorem found_of_look {res : Except ServiceError Record} {found : Except StoreError Record}
    (h : Follows task (findTarget subscriberId keyId).run start past (.done res))
    (ho : (.answered task (.lookup j) found :: e) <:+ past) (hs : start <:+ e) :
    j.subscriberId = subscriberId ∧ keyId = some j.keyId ∧ res = found.mapError .ofStore := by
  cases keyId with
  | none =>
    obtain ⟨mid, listed, hn, heq | hlater⟩ := Follows.operation_reached_cases h ho rfl hs
    · cases heq.1
    cases listed with
    | error e => exact (hn.done_not_acting ho rfl hlater).elim
    | ok records =>
      rw [Operation.ofStore_ok, pure_bind] at hn
      split at hn <;> exact (hn.done_not_acting ho rfl hlater).elim
  | some k =>
    obtain ⟨mid, looked, hn, heq | hlater⟩ := Follows.operation_reached_cases h ho rfl hs
    · cases heq.1
      cases found <;> cases hn.done_cases.1 <;> exact ⟨rfl, rfl, rfl⟩
    · cases looked <;> exact (hn.done_not_acting ho rfl hlater).elim

/-- How far a call that answers a challenge came until it was over. -/
inductive Answering (task : Task) (subscriberId : String) (keyId : Option String)
    (challenge : String) (start past : List Occurrence) : Except ServiceError String → Prop
  /-- It found no record. -/
  | astray {e : ServiceError}
      (hf : Follows task (findTarget subscriberId keyId).run start past (.done (.error e))) :
      Answering task subscriberId keyId challenge start past (.error e)
  /-- It found a record and went on with it. -/
  | found {current : Record} {mid : List Occurrence} {keys : Keyset}
      {res : Except ServiceError String}
      (hf : Follows task (findTarget subscriberId keyId).run start mid (.done (.ok current)))
      (ha : Follows task (task.service.answerFound subscriberId challenge current).run mid past
        (.done res))
      (hu : Uncommitted task.number mid) (hs : current.identity.subscriberId = subscriberId)
      (hi : ∀ k, keyId = some k → k = current.identity.keyId)
      (hk : keysAfter current.identity.keyId mid = some keys) :
      Answering task subscriberId keyId challenge start past res

theorem answering_of_follows {before : List Occurrence} {res : Except ServiceError String}
    (hc : Chronicle past)
    (h : Follows task (task.service.answerChallenge subscriberId keyId challenge).run
      (.begun task :: before) past (.done res)) :
    Answering task subscriberId keyId challenge (.begun task :: before) past res := by
  rw [answerChallenge_eq] at h
  rcases h.operation_bind_done with ⟨current, mid, hf, hn⟩ | ⟨e, hf, rfl⟩
  · have hlast : lastAccess task.number (.begun task :: before) = some (.begun task, before) :=
      lastAccess_cons_self (o := .begun task) rfl
    obtain ⟨hu, hfound⟩ := hf.upholds (hc.of_suffix hn.suffix) (upholds_findTarget hlast).run (by
      rintro res earlier later ho ⟨hu, hfound⟩
      refine ⟨hu.quiet ho.quiet, ?_⟩
      intro r hr
      obtain ⟨hs, hi, keys, hk⟩ := hfound r hr
      exact ⟨hs, hi, keys, keysAfter_mono ho.suffix hk⟩)
    obtain ⟨hs, hi, keys, hk⟩ := hfound current rfl
    exact .found hf hn hu hs hi hk
  · exact .astray hf

/-- A call that answered the challenge of a record that was found, or could not,
before it looked at the record again. -/
theorem answered_cases {s : Service} {keys : Keyset} {res : Except ServiceError String}
    (h : Follows task (s.answerFound subscriberId challenge current).run start past (.done res))
    (hc : Chronicle past) (hk : keysAfter current.identity.keyId start = some keys) :
    (Quiet task.number start past ∧ ∃ e, permit current.status .challenged = .error e ∨
      Challenge.answerWith keys s.registryKey challenge = .error e) ∨
    ∃ answer mid kept, Challenge.answerWith keys s.registryKey challenge = .ok answer ∧
      Follows task (revise ⟨subscriberId, current.identity.keyId⟩ (keepAnswer answer)).run mid past
        (.done kept) ∧ res = kept.map fun _ => answer := by
  unfold answerFound at h
  rcases permit_challenged current.status with ⟨e, he⟩ | hp
  · rw [he, Operation.ofExcept_error, Operation.throw_bind] at h
    exact .inl ⟨h.done_cases.2.quiet, e, .inl he⟩
  rw [hp, Operation.ofExcept_ok, pure_bind] at h
  have hresolve {later : List Occurrence} {res : Except ServiceError String} (hs : later <:+ past)
      (h : Follows task (Challenge.resolve s.registryKey challenge current.identity.keyId).run start
        later (.done res)) :
      Quiet task.number start later ∧ res = Challenge.answerWith keys s.registryKey challenge :=
    h.upholds (hc.of_suffix hs) (Challenge.upholds_resolve hk).run
      fun _ _ _ ho hq => ⟨hq.1.trans ho.quiet, hq.2⟩
  rcases h.operation_bind_done with ⟨answer, mid, hopened, hn⟩ | ⟨e, hopened, -⟩
  · refine .inr ⟨answer, mid, ?_⟩
    obtain ⟨-, hanswer⟩ := hresolve hn.suffix hopened
    rcases hn.operation_bind_done with ⟨stored, later, hkept, hdone⟩ | ⟨e, hkept, rfl⟩
    · obtain ⟨heq, ho⟩ := hdone.done_cases
      exact ⟨.ok stored, hanswer.symm, hkept.of_byOthers ho, Plan.done.inj heq⟩
    · exact ⟨.error e, hanswer.symm, hkept, rfl⟩
  · obtain ⟨hq, hanswer⟩ := hresolve List.suffix_rfl hopened
    exact .inl ⟨hq, e, .inr hanswer.symm⟩

/-- The answer that a call gave was kept with a record. -/
theorem Answering.kept (h : Answering task subscriberId keyId challenge start past (.ok answer))
    (hc : Chronicle past) (hcall : task.call = .answerChallenge subscriberId keyId challenge) :
    ∃ (i : Identity) (keys : Keyset) (r : Record), i.subscriberId = subscriberId ∧
      (∀ k, keyId = some k → k = i.keyId) ∧ keysAfter i.keyId past = some keys ∧
      Challenge.answerWith keys task.service.registryKey challenge = .ok answer ∧
      Settled task.number i (keepAnswer answer) past (.ok r) := by
  cases h with
  | @found current mid keys _ hf ha hu hs hi hk =>
    have hends :
        (task.service.answerFound subscriberId challenge current).Upholds task Proper _ mid :=
      upholds_answer (i := ⟨subscriberId, current.identity.keyId⟩) hcall hi hk hu
    rcases ha.upholds hc hends.run (by
      rintro res earlier later ho (⟨hq, herror⟩ | ⟨answer', decided, ha', hset, hres⟩)
      · exact .inl ⟨hq.trans ho.quiet, herror⟩
      · exact .inr ⟨answer', decided, ha', hset.quiet ho.quiet, hres⟩) with
      ⟨-, e, he, -⟩ | ⟨answer', decided, ha', hset, hres⟩
    · cases he
    · cases decided with
      | error e => cases hres
      | ok r =>
        cases hres
        exact ⟨⟨subscriberId, current.identity.keyId⟩, keys, r, rfl, hi,
          keysAfter_mono ha.suffix hk, ha', hset⟩

/-- A call whose last look found its answer gives it. -/
theorem Answering.of_lastLook {keys : Keyset} {res : Except ServiceError String}
    (h : Answering task subscriberId keyId challenge start past res) (hc : Chronicle past)
    (hstart : start <:+ e)
    (hl : LastLook task j (.ok r) e past) (hk : keysAfter j.keyId past = some keys)
    (hanswer : Challenge.answerWith keys task.service.registryKey challenge = .ok answer)
    (hr : r.Holds answer) :
    res = .ok answer ∧ Quiet task.number (.answered task (.lookup j) (.ok r) :: e) past := by
  have hread : ¬(Occurrence.answered task (.lookup j) (.ok r)).isAccess = false := by
    simp [Occurrence.isAccess, Ask.isAccess]
  cases h with
  | astray hf => cases (found_of_look hf hl.suffix hstart).2.2
  | @found current mid keys' _ hf ha hu hs hi hmid =>
    have hkeys : j = ⟨subscriberId, current.identity.keyId⟩ → keys' = keys := by
      rintro rfl
      exact Option.some.inj ((keysAfter_mono ha.suffix hmid).symm.trans hk)
    rcases answered_cases ha hc hmid with
      ⟨hq, e', hfail⟩ | ⟨answer', mid', kept, hopened, hkept, rfl⟩
    · -- The last look was the one that found the record, and what failed cannot fail.
      have hfirst := hq.suffix_of_not hl.suffix rfl hread
      obtain ⟨hsub, hkey, hres⟩ := found_of_look hf hfirst hstart
      cases hres
      rcases hfail with hfail | hfail
      · rw [hr.status] at hfail
        cases hfail
      · obtain rfl := hkeys (by rw [← hi _ hkey, ← hsub])
        rw [hanswer] at hfail
        cases hfail
    · obtain ⟨hj, rfl, hq⟩ := hl.of_revise hkept (by
        intro hj now
        obtain rfl := hkeys hj
        obtain rfl : answer = answer' := Except.ok.inj (hanswer.symm.trans hopened)
        exact keepAnswer_eq_none_iff.2 hr)
      obtain rfl := hkeys hj
      obtain rfl : answer = answer' := Except.ok.inj (hanswer.symm.trans hopened)
      exact ⟨rfl, hq⟩

end Service

/-! ## Challenges that are sent again -/

/-- In the meantime the record of the identity was written only by calls that
answer one challenge of one registry. -/
def OnlyAnswers (i : Identity) (registryKey challenge : String) (earlier past : List Occurrence) :
    Prop :=
  ∃ more, past = more ++ earlier ∧ ∀ o ∈ more, ∀ new, o.written? = some new → new.identity = i →
    ∃ keyId, o.task.call = .answerChallenge i.subscriberId keyId challenge ∧
      o.task.service.registryKey = registryKey

/-- A record that holds the answer is left as it is by those who give it
again. -/
theorem Chronicle.stored_of_onlyAnswers {earlier : List Occurrence} {keys : Keyset}
    {registryKey : String} (h : Chronicle past) (hr : recordAfter i earlier = some r)
    (hholds : r.Holds answer) (hk : keysAfter i.keyId earlier = some keys)
    (hanswer : Challenge.answerWith keys registryKey challenge = .ok answer)
    (ho : OnlyAnswers i registryKey challenge earlier past) : recordAfter i past = some r := by
  obtain ⟨more, rfl, hmore⟩ := ho
  obtain ⟨_, hstored, rfl⟩ := h.kept_since (P := (· = r)) hr rfl (by
    rintro o ho past old next hs hrev ⟨new, hw, hi⟩ hold rfl
    obtain ⟨keyId, hcall, hregistry⟩ := hmore o ho new hw hi
    rw [← hold] at hcall hk
    cases hrev with
    | @challenged _ _ answer' keys' _ hc _ hk' ho' hn _ =>
      -- The same keyset opens the same challenge, so the answer is the same.
      cases hcall.symm.trans hc
      obtain rfl : keys' = keys := Option.some.inj (hk'.symm.trans (keysAfter_mono hs hk))
      rw [hregistry, hanswer] at ho'
      cases ho'
      exact absurd ⟨hholds.status, hholds.nonce⟩ hn
    | remade hc | pushed hc | accepted hc | rejected hc => cases hcall.symm.trans hc)
  exact hstored

/-! ## Challenges that are answered alone -/

section Alone

variable {p : Nat} {t : Stage} {next : Record} {keys : Keyset}

/-- A change that is needed is made. -/
theorem solo_revise (hr : t.store.get? i = some r)
    (hc : change (t.lot.readings 0) r = .ok (some next)) (hid : next.identity = i) :
    ∃ stored t', (revise i change).solo p t = (.ok stored, t') := by
  have hput := Store.put_of_some (s := t.store) (r := next) (hid ▸ hr)
  have hround : revise i change = reviseWithin i change (15 + 1) := rfl
  rw [hround, reviseWithin_succ, Operation.solo_ask_bind]
  simp only [Stage.respond, Surroundings.respond, Store.get, hr, Operation.ofStore_ok, pure_bind]
  rw [Operation.solo_ask_bind]
  simp only [Stage.respond, Surroundings.respond, Lot.draws, Lot.after, hc, Operation.ofExcept_ok,
    pure_bind, reviseDecided]
  rw [Operation.solo_ask_bind]
  simp only [Stage.respond, Surroundings.respond, Lot.after, hput]
  exact ⟨_, _, rfl⟩

/-- A challenge that can be opened is answered. -/
theorem Service.solo_answerChallenge {s : Service} (hr : t.store.get? i = some r)
    (hp : Edge r.status .challenged .underSubscription) (hn : r.nonce ≠ some answer)
    (hk : t.surroundings.found p i.keyId = some keys)
    (ha : keys.openFrom challenge s.registryKey = .ok answer) (hne : answer ≠ "")
    (hblank : Text.allBlank challenge = false) :
    ((s.answerChallenge i.subscriberId (some i.keyId) challenge).solo p t).1 = .ok answer := by
  have hid : r.identity = i := Store.identity_of_get? hr
  have hopen : (Keys.openFrom i.keyId challenge s.registryKey).solo p t =
      (.ok answer, t.warm p i.keyId) := by
    unfold Keys.openFrom
    rw [Operation.solo_bind_ok (Keys.solo_find.trans (by rw [hk]; rfl)), ha]
    rfl
  have hresolve : (Challenge.resolve s.registryKey challenge i.keyId).solo p t =
      (.ok answer, t.warm p i.keyId) := by
    unfold Challenge.resolve
    rw [hblank]
    simp only [Bool.false_eq_true, if_false]
    refine (Operation.solo_bind_ok (Operation.solo_adapt_ok hopen)).trans ?_
    rw [if_neg hne]
    rfl
  have hstored : (t.warm p i.keyId).store.get? i = some r := by
    rw [Stage.warm, Stage.store, Surroundings.store_warm, hr]
  obtain ⟨next, hnext⟩ : ∃ next, keepAnswer answer (t.lot.readings 0) r = .ok (some next) :=
    ⟨_, keepAnswer_eq_some_iff.2 ⟨hp, fun h => hn h.2, rfl⟩⟩
  have hkept : next.identity = i := by
    obtain ⟨-, -, rfl⟩ := keepAnswer_eq_some_iff.1 hnext
    exact hid
  obtain ⟨stored, t', hrevise⟩ := solo_revise (p := p) hstored hnext hkept
  unfold Service.answerChallenge
  rw [Operation.solo_ask_bind]
  simp only [Stage.respond, Surroundings.respond, Store.get, hr, Operation.ofStore_ok, pure_bind,
    permit_eq_advance_iff.2 hp, Operation.ofExcept_ok, hid]
  refine (congrArg Prod.fst (Operation.solo_bind_ok hresolve)).trans ?_
  exact congrArg Prod.fst (Operation.solo_bind_ok hrevise)

end Alone

/-! ## Runs -/

namespace World

variable {w : World} {n p : Nat} {s : Service} {res : Except ServiceError String}

/-- **Every answered challenge was the stored answer.**  When a call has given an
answer, there was a time after its start and before its end when the registry
challenged the stored record and the record held this answer.  From then on the
record stays what it is, its version included, as long as only calls that
answer the same challenge write it.

When the last look of a call that is over found that the registry challenged the
record, and that it held the answer of this call already, then the call has given
this answer and has written nothing. -/
theorem Reachable.answers_stored (h : w.Reachable)
    (hd : (⟨⟨n, p, s, .answerChallenge subscriberId keyId challenge⟩, .done res⟩ : Running) ∈
      w.running) :
    (∀ answer, res = .ok answer → ∃ (v : World) (i : Identity) (r : Record),
      v.Amid ⟨n, p, s, .answerChallenge subscriberId keyId challenge⟩ w ∧
      i.subscriberId = subscriberId ∧ (∀ k, keyId = some k → k = i.keyId) ∧
      v.store.get? i = some r ∧ r.Holds answer ∧
      ∀ w', v.Leads w' → OnlyAnswers i s.registryKey challenge v.past w'.past →
        w'.store.get? i = some r) ∧
    ∀ (i : Identity) (r : Record) (keys : Keyset) (answer : String) (earlier : List Occurrence),
      LastLook ⟨n, p, s, .answerChallenge subscriberId keyId challenge⟩ i (.ok r) earlier w.past →
      w.store.keys? i.keyId = some keys →
      Challenge.answerWith keys s.registryKey challenge = .ok answer → r.Holds answer →
      res = .ok answer ∧ ∀ o ∈ w.past, o.task.number = n → o.written? = none := by
  obtain ⟨before, hf⟩ := (h.course hd).follows
  have hchron := h.sound.chronicle
  have hanswering := Service.answering_of_follows hchron hf
  constructor
  · rintro answer rfl
    obtain ⟨i, keys, kept, hs, hi, hk, hanswer, hset⟩ := hanswering.kept hchron rfl
    obtain ⟨hholds, o, earlier, hlast, hstored⟩ := hset.holds
    have hsuffix : (o :: earlier) <:+ w.past := lastAccess_suffix hlast
    obtain ⟨hnumber, haccess⟩ := lastAccess_spec hlast
    obtain ⟨v, hamid, hpast⟩ := h.exists_amid hsuffix (Occurrence.startsRound_of_isAccess haccess)
    have htask : o.task = ⟨n, p, s, .answerChallenge subscriberId keyId challenge⟩ :=
      h.sound.task_eq_of_number_eq (hsuffix.subset List.mem_cons_self)
        (hf.suffix.subset List.mem_cons_self) hnumber
    rw [← hpast] at hstored hsuffix
    obtain ⟨keys', hkeys⟩ := Option.ne_none_iff_exists'.1
      (hamid.reachable.sound.chronicle.keysAfter_ne_none (i := i) (by simp [hstored]))
    obtain rfl : keys' = keys := Option.some.inj ((keysAfter_mono hsuffix hkeys).symm.trans hk)
    refine ⟨v, i, kept, htask ▸ hamid, hs, hi, (hamid.reachable.sound.get?_eq i).trans hstored,
      hholds, ?_⟩
    intro w' hl ho
    have hsound := Leads.sound hl hamid.reachable.sound
    rw [hsound.get?_eq]
    exact hsound.chronicle.stored_of_onlyAnswers hstored hholds hkeys hanswer ho
  · intro i r keys answer earlier hl hk hanswer hholds
    have hk' : keysAfter i.keyId w.past = some keys := (h.sound.agree.keys _).symm.trans hk
    obtain ⟨hres, hq⟩ := hanswering.of_lastLook hchron
      (hchron.begun_first hf.suffix hl.suffix rfl) hl hk' hanswer hholds
    refine ⟨hres, ?_⟩
    intro o ho hn
    have hu : Uncommitted n w.past := by
      refine uncommitted_of_answered ?_ ?_ hq <;> rfl
    exact h.sound.written?_eq_none_of_uncommitted (hn ▸ hu) ho

/-- The key of the registry. -/
def registryKey : String := "AAAAAAAAAAAAAAAAAAAAAAAAAAAAAAAAAAAAAAAAAAA="

/-- A registration is made that the registry may challenge. -/
def unchallenged : World := empty.play
  ([.restart ⟨registryKey, ⟨1, 0, 0, 1, false⟩⟩,
    .call 0 (.create sampleIdentity "BAP" (.plain "https://host" "domain"))] ++
    List.replicate 8 (.answer 0 .sample))

/-- A text can be sealed with any nonce. -/
theorem exists_sealed (nonce : Bytes) (text : String) :
    ∃ blob, (⟨[], []⟩ : Keyset).sealFor nonce text registryKey = .ok blob := by
  have hkey : decodeKey registryKey = .ok (List.replicate 32 0) := by decide +kernel
  rw [Keyset.sealFor, Keyset.sharedCipher, hkey]
  exact ⟨_, rfl⟩

/-- The answer that was given was stored on the way. -/
theorem answers_stored_challenged : ∃ (w v : World) (n p : Nat) (s : Service)
    (subscriberId : String) (keyId : Option String) (challenge : String) (i : Identity)
    (r : Record), w.Reachable ∧
    (⟨⟨n, p, s, .answerChallenge subscriberId keyId challenge⟩, .done (.ok "answer")⟩ : Running) ∈
      w.running ∧
    v.Amid ⟨n, p, s, .answerChallenge subscriberId keyId challenge⟩ w ∧
    v.store.get? i = some r ∧ r.Holds "answer" := by
  have hreach : unchallenged.Reachable := leads_play _ _
  have hprocess : (unchallenged.surroundings.processes[0]?).map (·.service.registryKey) =
      some registryKey := by
    decide +kernel
  have hwaits : (unchallenged.store.get? sampleIdentity).map (fun r => (r.status, r.nonce)) =
      some (.initiated, none) := by
    decide +kernel
  have hkeys : unchallenged.surroundings.found 0 sampleIdentity.keyId = some ⟨[], []⟩ := by
    decide +kernel
  obtain ⟨process, hp, hregistry⟩ := Option.map_eq_some_iff.1 hprocess
  obtain ⟨r, hr, heq⟩ := Option.map_eq_some_iff.1 hwaits
  obtain ⟨hstatus, hnonce⟩ := Prod.mk.inj heq
  obtain ⟨blob, hblob⟩ := exists_sealed (List.replicate 12 0) "answer"
  have hopen : (⟨[], []⟩ : Keyset).openFrom blob process.service.registryKey = .ok "answer" :=
    hregistry ▸ Keyset.openFrom_sealFor hblob rfl rfl
  have hblank : Text.allBlank blob = false := Keyset.allBlank_sealFor hblob rfl
  obtain ⟨w, hwreach, -, hmem⟩ := hreach.exists_call (.sample ⟨[], []⟩) hp
    (c := .answerChallenge "subscriber" (some "key") blob) trivial
  have hanswer := Service.solo_answerChallenge (p := 0) (i := sampleIdentity)
    (t := ⟨.sample ⟨[], []⟩, unchallenged.surroundings⟩) hr (hstatus ▸ .firstChallenge)
    (by rw [hnonce]; nofun) hkeys hopen (by decide) hblank
  have hmem : (⟨unchallenged.nextTask 0 process.service
      (.answerChallenge "subscriber" (some "key") blob), .done (.ok "answer")⟩ : Running) ∈
        w.running := hanswer ▸ hmem
  obtain ⟨v, i, r, hamid, -, -, hr, hholds, -⟩ := (Reachable.answers_stored hwreach hmem).1 _ rfl
  exact ⟨w, v, _, _, _, _, _, _, i, r, hwreach, hmem, hamid, hr, hholds⟩

end World

end Enrolment
