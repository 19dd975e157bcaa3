import Enrolment.Proofs.Conduct.Rounds

/-!
# How calls end

A call meets the records a last time, and that access decides: what the call
ends with, and what it writes, is its verdict on the record that was stored just
then.  The exceptions are calls that were tried too often, rounds without an
answer, which write nothing, and calls that name no record.

## Main definitions

* `Ended` — the last access tells how a call ended.

## Main statements

* `Settled.ended` — a call that comes to a change ends as the change is settled.
* `Service.Call.upholds_operation` — every call asks only for what it may ask
  for, and ends as the last access tells.
-/

namespace Enrolment

/-- How a call of a task ends. -/
inductive Ended (task : Task) (past : List Occurrence) {c : Service.Call} :
    Except ServiceError c.Result → Prop
  /-- The last access decided: the call came to the verdict, given the record
  that was stored just then. -/
  | told {o : Occurrence} {earlier : List Occurrence} {i : Identity}
      (outcome : Option (Except GiveUp Ack)) (now : Moment) {res : Except ServiceError c.Result}
      (ha : lastAccess task.number past = some (o, earlier)) (hp : o.isPart = true)
      (hi : c.subject? = some i) (hr : ∀ said, outcome = some said → Reported task past said)
      (hv : c.verdict task.service outcome now (recordAfter i earlier) (keysAfter i.keyId earlier) =
        some ⟨res, o.written?⟩) : Ended task past res
  /-- Others were always faster. -/
  | lost {i : Identity} (hu : Uncommitted task.number past) :
      Ended task past (.error (.storage (.contention i maxRounds)))
  /-- The registry did not answer. -/
  | unanswered {e : NoAnswer} (hu : Uncommitted task.number past) :
      Ended task past (.error (.noAnswer e))
  /-- The call names no record. -/
  | unnamed {res : Except ServiceError c.Result} (hi : c.subject? = none) : Ended task past res

variable {task : Task} {past before : List Occurrence}

/-- How a call ended stays true while the task meets no records. -/
theorem Ended.quiet {c : Service.Call} {res : Except ServiceError c.Result}
    {later : List Occurrence} (h : Ended task past res) (hq : Quiet task.number past later) :
    Ended task later res := by
  cases h with
  | told outcome now ha hp hi hr hv =>
    exact .told outcome now (lastAccess_of_quiet hq ▸ ha) hp hi
      (fun o ho => (hr o ho).mono hq.suffix) hv
  | lost hu => exact .lost (hu.quiet hq)
  | unanswered hu => exact .unanswered (hu.quiet hq)
  | unnamed hi => exact .unnamed hi

/-- A task that has met no records yet has written none. -/
theorem uncommitted_of_begun (hb : lastAccess task.number past = some (.begun task, before)) :
    Uncommitted task.number past := by
  intro o earlier ho
  rw [hb] at ho
  cases ho
  rfl

/-- A call that comes to a change of its record ends as the change is
settled. -/
theorem Settled.ended {c : Service.Call} {i : Identity} {change : Change}
    {decided : Except ServiceError Record} (h : Settled task.number i change past decided)
    (res : Except ServiceError Record → Except ServiceError c.Result)
    (he : ∀ e, res (.error e) = .error e) (hi : c.subject? = some i)
    (outcome : Option (Except GiveUp Ack))
    (hr : ∀ said, outcome = some said → Reported task past said)
    (hv : ∀ now o earlier, lastAccess task.number past = some (o, earlier) → Chronicle earlier →
      c.verdict task.service outcome now (recordAfter i earlier) (keysAfter i.keyId earlier) =
        some ⟨res (change.verdict i now (recordAfter i earlier)).result,
          (change.verdict i now (recordAfter i earlier)).written⟩) :
    Ended task past (res decided) := by
  cases h with
  | @told o earlier now _ ha hp hchron hverdict =>
    refine .told outcome now ha hp hi hr ?_
    rw [hv now o earlier ha hchron, hverdict]
  | lost hu =>
    rw [he]
    exact .lost hu

/-- Once a challenge is answered, what becomes of the record decides. -/
theorem Verdict.answerChallenge_of_answered {s : Service} {i : Identity}
    {challenge answer : String} {now : Moment} {stored : Option Record} {keys : Keyset}
    {found : Option Keyset} (ha : Challenge.answerWith keys s.registryKey challenge = .ok answer)
    (hk : stored ≠ none → found = some keys) :
    Verdict.answerChallenge s i challenge now stored found =
      ⟨((keepAnswer answer).verdict i now stored).result.map fun _ => answer,
        ((keepAnswer answer).verdict i now stored).written⟩ := by
  cases stored with
  | none => rfl
  | some current =>
    obtain rfl : found = some keys := hk (by simp)
    cases hp : permit current.status .challenged with
    | error e => simp [Verdict.answerChallenge, hp, Change.verdict, keepAnswer, bind, Except.bind,
        Verdict.fails, Except.map]
    | ok outcome => simp [Verdict.answerChallenge, hp, ha]

/-- A challenge that cannot be taken or opened is not answered. -/
theorem Verdict.answerChallenge_of_error {s : Service} {i : Identity} {challenge : String}
    {now : Moment} {current : Record} {keys : Keyset} {e : ServiceError}
    (he : permit current.status .challenged = .error e ∨
      (permit current.status .challenged).isOk ∧
        Challenge.answerWith keys s.registryKey challenge = .error e) :
    Verdict.answerChallenge s i challenge now (some current) (some keys) = .fails e := by
  rcases he with hp | ⟨hp, ha⟩
  · simp [Verdict.answerChallenge, hp]
  · cases hp' : permit current.status .challenged with
    | error _ => simp [hp', Except.isOk, Except.toBool] at hp
    | ok _ => simp [Verdict.answerChallenge, hp', ha]

namespace Service

/-- A registration that is there is compared. -/
private theorem upholds_compare {i : Identity} {role : String} {payload : Payload} {now : Moment}
    {fresh : Record} (hm : Record.make i role payload now = .ok fresh)
    (hu : Uncommitted task.number past) (hsome : recordAfter i past ≠ none) :
    Operation.Upholds task Proper
      (fun res later => Ended task later (c := .create i role payload) res)
      (do
        let existing ← Operation.ofStore (← Operation.ask (.lookup i))
        if existing.sameRegistration role payload then return existing
        else throw (.conflict i)) past := by
  apply Operation.Upholds.ask_bind
  intro past₁ h₁ _ found hf
  refine ⟨hu.quiet h₁.quiet, ?_⟩
  have hpart : Occurrence.isPart (.answered task (.lookup i) found) = true :=
    Occurrence.isPart_answered found rfl
  rcases hf with ⟨hnone, -⟩ | ⟨existing, hex, rfl⟩
  · exact absurd hnone (recordAfter_ne_none_mono h₁.suffix hsome)
  rw [Operation.ofStore_ok, pure_bind]
  by_cases hsame : existing.sameRegistration role payload = true
  · simp only [hsame, if_true]
    refine Operation.Upholds.pure (.told none now (lastAccess_answered rfl (.refl _)) hpart rfl
      nofun ?_)
    simp only [Call.verdict, Verdict.create, hm, hex, hsame]
    rfl
  · simp only [hsame]
    refine Operation.Upholds.throw (.told none now (lastAccess_answered rfl (.refl _)) hpart rfl
      nofun ?_)
    simp only [Call.verdict, Verdict.create, hm, hex, hsame]
    rfl

/-- A registration is made, or it was there. -/
theorem upholds_create {i : Identity} {role : String} {payload : Payload}
    (hc : task.call = .create i role payload)
    (hb : lastAccess task.number past = some (.begun task, before)) :
    (create i role payload).Upholds task Proper
      (fun res later => Ended task later (c := .create i role payload) res) past := by
  apply Operation.Upholds.ask_bind
  intro past₁ h₁ _ now _
  refine ⟨trivial, ?_⟩
  have q₁ : Quiet task.number past (.answered task .clock now :: past₁) :=
    (Since.refl past).answered h₁ rfl
  cases hm : Record.make i role payload now with
  | error e =>
    refine Operation.Upholds.throw (.told none now (lastAccess_of_quiet q₁ ▸ hb)
      (Occurrence.isPart_begun hc rfl) rfl nofun ?_)
    simp only [Call.verdict, Verdict.create, hm]
    rfl
  | ok fresh =>
  rw [Operation.ofExcept_ok, pure_bind]
  refine Operation.Upholds.bind (Keys.upholds_ensure hc) ?_ ?_
  · rintro publicKeys past₂ - ⟨q₂, -, hk⟩
    apply Operation.Upholds.ask_bind
    intro past₃ h₃ c₃ put ht
    have hu : Uncommitted task.number past₃ :=
      (uncommitted_of_begun hb).quiet ((q₁.trans q₂).trans h₃.quiet)
    obtain rfl : fresh.identity = i := (Record.make_eq_ok_iff.1 hm).2 ▸ rfl
    have hkeys : keysAfter fresh.identity.keyId past₃ ≠ none := by
      obtain ⟨keys, hkeys⟩ := Option.ne_none_iff_exists'.1 hk
      simp [keysAfter_mono h₃.suffix hkeys]
    refine ⟨⟨hu, hkeys, role, payload, now, hc, hm⟩, ?_⟩
    rcases ht with ⟨hnone, rfl⟩ | ⟨hsome, rfl⟩
    · apply Operation.Upholds.ask_bind
      intro past₄ h₄ _ _ _
      constructor
      · refine written_mono h₄.suffix ?_
        simp [written, Occurrence.written?, Occurrence.stored?, Except.toOption]
      · refine Operation.Upholds.pure (.told none now
          (lastAccess_answered rfl ((Since.refl _).answered h₄ rfl))
          (Occurrence.isPart_answered _ rfl) rfl nofun ?_)
        simp only [Call.verdict, Verdict.create, hm, hnone]
        rfl
    · refine upholds_compare hm (uncommitted_of_answered rfl rfl (.refl _)) ?_
      rw [recordAfter_cons_of_none rfl]
      exact hsome
  · rintro e past₂ - ⟨-, ⟨keys, hres⟩, -⟩
    cases hres

/-- A registration is replaced if there is one that failed. -/
theorem upholds_update {i : Identity} {role : String} {payload : Payload}
    (hc : task.call = .update i role payload)
    (hb : lastAccess task.number past = some (.begun task, before)) :
    (update i role payload).Upholds task Proper
      (fun res later => Ended task later (c := .update i role payload) res) past := by
  have hpart : Occurrence.isPart (.begun task) = true := Occurrence.isPart_begun hc rfl
  unfold update
  cases hr : checkRole role with
  | error e =>
    refine Operation.Upholds.throw (.told none .epoch hb hpart rfl nofun ?_)
    simp only [Call.verdict, Verdict.update, hr]
    rfl
  | ok _ =>
  rw [Operation.ofExcept_ok, pure_bind]
  cases hp : payload.check with
  | error e =>
    refine Operation.Upholds.throw (.told none .epoch hb hpart rfl nofun ?_)
    simp only [Call.verdict, Verdict.update, hr, hp]
    rfl
  | ok _ =>
  have hverdict (now : Moment) (stored : Option Record) (keys : Option Keyset) :
      Call.verdict task.service none now stored keys (.update i role payload) =
        some ((makeAgain role payload).verdict i now stored) := by
    simp only [Call.verdict, Verdict.update, hr, hp, Verdict.after_ok]
  rw [Operation.ofExcept_ok, pure_bind]
  apply Operation.Upholds.ask_bind
  intro past₁ h₁ c₁ found ht
  refine ⟨(uncommitted_of_begun hb).quiet h₁.quiet, ?_⟩
  rcases ht with ⟨hnone, rfl⟩ | ⟨current, hcur, rfl⟩
  · refine Operation.Upholds.throw (.told none .epoch (lastAccess_answered rfl (.refl _))
      (Occurrence.isPart_answered _ rfl) rfl nofun ?_)
    rw [hverdict, hnone]
    rfl
  rw [Operation.ofStore_ok, pure_bind]
  obtain ⟨keys, hk⟩ := Option.ne_none_iff_exists'.1 (c₁.keysAfter_ne_none (i := i) (by simp [hcur]))
  refine Operation.Upholds.bind
    (Keys.upholds_publicKeys (keysAfter_mono (List.suffix_cons _ past₁) hk)) ?_ ?_
  · rintro publicKeys past₂ - ⟨q₂, -⟩
    refine Operation.Upholds.bind (upholds_revise (uncommitted_of_answered rfl rfl q₂) ?_) ?_ ?_
    · intro later now old next _ _ hmem hch
      obtain ⟨hedge, rfl⟩ := makeAgain_eq_some_iff.1 hch
      exact .remade (identity_of_mem_writes hmem ▸ hc) hr hp hedge
    · intro stored past₃ _ hset
      apply Operation.Upholds.ask_bind
      intro past₄ h₄ _ _ _
      constructor
      · exact written_mono h₄.suffix hset.mem_written
      · have hq : Quiet task.number past₃ (.answered task (.schedule stored .update) () :: past₄) :=
          (Since.refl past₃).answered h₄ rfl
        exact Operation.Upholds.pure ((hset.quiet hq).ended (c := .update i role payload) id
          (fun _ => rfl) rfl none nofun fun _ _ _ _ _ => hverdict _ _ _)
    · intro e past₃ _ hset
      exact hset.ended (c := .update i role payload) id (fun _ => rfl) rfl none nofun
        fun _ _ _ _ _ => hverdict _ _ _
  · rintro e past₂ - ⟨-, hres⟩
    cases hres

/-- A pushed status is followed if it is one. -/
theorem upholds_pushStatus {i : Identity} {status : String}
    (hc : task.call = .pushStatus i status)
    (hb : lastAccess task.number past = some (.begun task, before)) :
    (pushStatus i status).Upholds task Proper
      (fun res later => Ended task later (c := .pushStatus i status) res) past := by
  unfold pushStatus
  cases ht : Status.read? status with
  | none =>
    refine Operation.Upholds.throw (.told none .epoch hb (Occurrence.isPart_begun hc rfl) rfl
      nofun ?_)
    simp only [Call.verdict, Verdict.pushStatus, ht]
    rfl
  | some target =>
    have hverdict (now : Moment) (stored : Option Record) (keys : Option Keyset) :
        Call.verdict task.service none now stored keys (.pushStatus i status) =
          some ((follow (.pushed target)).verdict i now stored) := by
      simp only [Call.verdict, Verdict.pushStatus, ht, Verdict.given_some]
    refine (upholds_revise (uncommitted_of_begun hb) ?_).mono fun res later _ hset => ?_
    · intro later now old next _ _ hmem hch
      obtain ⟨hedge, rfl⟩ := follow_eq_some_iff.1 hch
      exact .pushed (identity_of_mem_writes hmem ▸ hc) ht hedge
    · exact hset.ended (c := .pushStatus i status) id (fun _ => rfl) rfl none nofun
        fun _ _ _ _ _ => hverdict _ _ _

/-- The record of an identity is the one that is stored. -/
theorem upholds_get {i : Identity}
    (hb : lastAccess task.number past = some (.begun task, before)) :
    (get i).Upholds task Proper (fun res later => Ended task later (c := .get i) res) past := by
  apply Operation.Upholds.ask_bind
  intro past₁ h₁ _ found ht
  refine ⟨(uncommitted_of_begun hb).quiet h₁.quiet, ?_⟩
  have hpart : Occurrence.isPart (.answered task (.lookup i) found) = true :=
    Occurrence.isPart_answered found rfl
  rcases ht with ⟨hnone, rfl⟩ | ⟨current, hcur, rfl⟩
  · refine Operation.Upholds.throw (.told none .epoch (lastAccess_answered rfl (.refl _))
      hpart rfl nofun ?_)
    simp only [Call.verdict, hnone]
    rfl
  · refine Operation.Upholds.pure (.told none .epoch (lastAccess_answered rfl (.refl _))
      hpart rfl nofun ?_)
    simp only [Call.verdict, hcur]
    rfl

/-- Answering the challenge of a record that was found.  The first two errors
are known before the record is met again. -/
theorem upholds_answer {i : Identity} {keyId : Option String} {challenge : String}
    {status : Status} {keys : Keyset}
    (hc : task.call = .answerChallenge i.subscriberId keyId challenge)
    (hi : ∀ k, keyId = some k → k = i.keyId) (hk : keysAfter i.keyId past = some keys)
    (hu : Uncommitted task.number past) :
    Operation.Upholds task Proper (fun res later =>
      (Quiet task.number past later ∧ ∃ e, res = .error e ∧
        (permit status .challenged = .error e ∨ (permit status .challenged).isOk ∧
          Challenge.answerWith keys task.service.registryKey challenge = .error e)) ∨
      ∃ answer decided,
        Challenge.answerWith keys task.service.registryKey challenge = .ok answer ∧
          Settled task.number i (keepAnswer answer) later decided ∧
          res = decided.map fun _ => answer)
      (do
        let _ ← Operation.ofExcept id (permit status .challenged)
        let answer ← Challenge.resolve task.service.registryKey challenge i.keyId
        let _ ← revise i (keepAnswer answer)
        return answer) past := by
  cases hp : permit status .challenged with
  | error e => exact Operation.Upholds.throw (.inl ⟨.refl past, e, rfl, .inl rfl⟩)
  | ok _ =>
  rw [Operation.ofExcept_ok, pure_bind]
  refine Operation.Upholds.bind (Challenge.upholds_resolve hk) ?_ ?_
  · rintro answer past₁ s₁ ⟨q₁, hanswer⟩
    refine Operation.Upholds.bind (upholds_revise (hu.quiet q₁) ?_) ?_ ?_
    · intro later now old next hs _ hmem hch
      obtain ⟨hedge, hn, rfl⟩ := keepAnswer_eq_some_iff.1 hch
      obtain rfl := identity_of_mem_writes hmem
      exact .challenged hc hi (keysAfter_mono (s₁.trans hs) hk) hanswer.symm hn hedge
    · intro stored past₂ _ hset
      exact Operation.Upholds.pure (.inr ⟨answer, _, hanswer.symm, hset, rfl⟩)
    · intro e past₂ _ hset
      exact .inr ⟨answer, _, hanswer.symm, hset, rfl⟩
  · rintro e past₁ - ⟨q₁, hanswer⟩
    exact .inl ⟨q₁, e, rfl, .inr ⟨rfl, hanswer.symm⟩⟩

/-- The record that a challenge without a key is for. -/
theorem upholds_findChallenged {subscriberId : String} :
    (findChallenged subscriberId).Upholds task Proper (fun res later =>
      Quiet task.number past later ∧ ∀ r, res = .ok r →
        r.identity.subscriberId = subscriberId ∧ keysAfter r.identity.keyId later ≠ none) past := by
  apply Operation.Upholds.ask_bind
  intro past₁ h₁ c₁ found ht
  refine ⟨trivial, ?_⟩
  have q₁ : Quiet task.number past (.answered task (.ofSubscriber subscriberId) found :: past₁) :=
    (Since.refl past).answered h₁ rfl
  obtain ⟨rs, rfl, hrs⟩ := ht
  rw [Operation.ofStore_ok, pure_bind]
  split
  · exact Operation.Upholds.throw ⟨q₁, fun _ hr => by cases hr⟩
  · rename_i r hr
    refine Operation.Upholds.pure ⟨q₁, fun r' hr' => ?_⟩
    cases hr'
    have hmem : r ∈ rs := (List.mem_filter.1 (hr ▸ List.mem_singleton_self r)).1
    obtain ⟨hrec, hsub⟩ := (hrs r).1 hmem
    obtain ⟨keys, hk⟩ := Option.ne_none_iff_exists'.1
      (c₁.keysAfter_ne_none (i := r.identity) (by simp [hrec]))
    exact ⟨hsub, by simp [keysAfter_mono (List.suffix_cons _ past₁) hk]⟩
  · exact Operation.Upholds.throw ⟨q₁, fun _ hr => by cases hr⟩

/-- A challenge for a key is answered, and the answer kept with the record. -/
private theorem upholds_answerChallenge_some {subscriberId keyId challenge : String}
    (hc : task.call = .answerChallenge subscriberId (some keyId) challenge)
    (hb : lastAccess task.number past = some (.begun task, before)) :
    (task.service.answerChallenge subscriberId (some keyId) challenge).Upholds task Proper
      (fun res later =>
        Ended task later (c := .answerChallenge subscriberId (some keyId) challenge) res) past := by
  apply Operation.Upholds.ask_bind
  intro past₁ h₁ c₁ found ht
  refine ⟨(uncommitted_of_begun hb).quiet h₁.quiet, ?_⟩
  have hpart : Occurrence.isPart (.answered task (.lookup ⟨subscriberId, keyId⟩) found) = true :=
    Occurrence.isPart_answered found rfl
  rcases ht with ⟨hnone, rfl⟩ | ⟨current, hcur, rfl⟩
  · refine Operation.Upholds.throw (.told none .epoch (lastAccess_answered rfl (.refl _)) hpart rfl
      nofun ?_)
    simp only [Call.verdict, hnone]
    rfl
  rw [Operation.ofStore_ok, pure_bind]
  have hid : current.identity = ⟨subscriberId, keyId⟩ := identity_of_recordAfter hcur
  obtain ⟨keys, hk⟩ := Option.ne_none_iff_exists'.1
    (c₁.keysAfter_ne_none (i := ⟨subscriberId, keyId⟩) (by simp [hcur]))
  simp only [hid]
  refine (upholds_answer (i := ⟨subscriberId, keyId⟩) hc (fun k hk => (Option.some.inj hk).symm)
    (keysAfter_mono (List.suffix_cons _ past₁) hk)
    (uncommitted_of_answered rfl rfl (.refl _))).mono ?_
  rintro res later hs (⟨q, e, rfl, herr⟩ | ⟨answer, decided, hanswer, hset, rfl⟩)
  · refine .told none .epoch (lastAccess_answered rfl q) hpart rfl nofun ?_
    simp only [Call.verdict, hcur, hk, Verdict.answerChallenge_of_error herr]
    rfl
  · refine hset.ended (c := .answerChallenge subscriberId (some keyId) challenge)
      (Except.map fun _ => answer) (fun _ => rfl) rfl none nofun ?_
    intro now o earlier ha hchron
    simp only [Call.verdict]
    rw [Verdict.answerChallenge_of_answered hanswer]
    -- The keyset of the key is still the one that the challenge was opened with.
    intro hne
    obtain ⟨keys', hk'⟩ := Option.ne_none_iff_exists'.1 (hchron.keysAfter_ne_none hne)
    have hmore : keysAfter keyId later = some keys' :=
      keysAfter_mono ((List.suffix_cons o earlier).trans (lastAccess_suffix ha)) hk'
    have hmore' : keysAfter keyId later = some keys :=
      keysAfter_mono ((List.suffix_cons _ past₁).trans hs) hk
    rw [hk', ← hmore, hmore']

/-- A challenge is answered, and the answer kept with the record. -/
theorem upholds_answerChallenge {subscriberId challenge : String} {keyId : Option String}
    (hc : task.call = .answerChallenge subscriberId keyId challenge)
    (hb : lastAccess task.number past = some (.begun task, before)) :
    (task.service.answerChallenge subscriberId keyId challenge).Upholds task Proper
      (fun res later => Ended task later (c := .answerChallenge subscriberId keyId challenge) res)
      past := by
  cases keyId with
  | none =>
    refine Operation.Upholds.mono (Q := fun _ _ => True) ?_ fun _ _ _ _ => .unnamed rfl
    refine Operation.Upholds.bind upholds_findChallenged ?_ fun _ _ _ _ => trivial
    rintro current past₁ - ⟨q₁, hcur⟩
    obtain ⟨rfl, hk⟩ := hcur current rfl
    obtain ⟨keys, hk⟩ := Option.ne_none_iff_exists'.1 hk
    exact (upholds_answer (i := current.identity) hc nofun hk
      ((uncommitted_of_begun hb).quiet q₁)).mono fun _ _ _ _ => trivial
  | some keyId => exact upholds_answerChallenge_some hc hb

/-- Taking stock meets no record. -/
theorem upholds_readiness :
    readiness.Upholds task Proper
      (fun res later => Ended task later (c := .readiness) res) past := by
  refine Operation.Upholds.mono (Q := fun _ _ => True) ?_ fun _ _ _ _ => .unnamed rfl
  apply Operation.Upholds.mapM
  intro status _ past₁ _
  apply Operation.Upholds.ask_bind
  intro past₂ _ _ found ht
  refine ⟨trivial, ?_⟩
  obtain ⟨rs, rfl, -⟩ := ht
  exact Operation.Upholds.pure trivial

/-- Rounds are started for stored records only. -/
theorem upholds_resume :
    resume.Upholds task Proper (fun res later => Ended task later (c := .resume) res) past := by
  refine Operation.Upholds.mono (Q := fun _ _ => True) ?_ fun _ _ _ _ => .unnamed rfl
  apply Operation.Upholds.ask_bind
  intro past₁ _ _ found ht
  refine ⟨trivial, ?_⟩
  obtain ⟨rs, rfl, hrs⟩ := ht
  rw [Operation.ofStore_ok, pure_bind]
  refine Operation.Upholds.bind (Q := fun _ _ => True) ?_
    (fun _ _ _ _ => Operation.Upholds.pure trivial) fun _ _ _ _ => trivial
  apply Operation.Upholds.forM
  intro r hr past₂ h₂
  refine Operation.Upholds.ask (a := .schedule r (.ofRecord r)) (Q := fun _ _ => True)
    fun past₃ h₃ _ _ _ => ⟨?_, trivial⟩
  have hmem : r ∈ written past₁ :=
    (mem_writes_iff.1 (mem_writes_of_recordAfter ((hrs r).1 hr).1)).1
  exact written_mono ((List.suffix_cons _ past₁).trans (h₂.trans h₃.suffix)) hmem

/-- A round ends as the registry reported, if it did. -/
theorem upholds_round {r : Record} {kind : RoundKind} {keys : Keyset}
    (hc : task.call = .register r kind)
    (hb : lastAccess task.number past = some (.begun task, before))
    (hk : keysAfter r.identity.keyId past = some keys) :
    (task.service.register r kind).Upholds task Proper
      (fun res later => Ended task later (c := .register r kind) res) past := by
  refine (upholds_register hc (uncommitted_of_begun hb) hk).mono ?_
  rintro res later - ⟨outcome, hr, hcon⟩
  cases he : ending r outcome with
  | error e =>
    simp only [Concluded, he] at hcon
    obtain ⟨hu, rfl⟩ := hcon
    exact .unanswered hu
  | ok change =>
    simp only [Concluded, he] at hcon
    refine hcon.ended (c := .register r kind) id (fun _ => rfl) rfl (some outcome) ?_ ?_
    · rintro said hsaid
      cases hsaid
      exact hr
    · intro now o earlier _ _
      simp only [Call.verdict, Option.map_some, Verdict.conclude, he, Verdict.after_ok]
      rfl

/-- Every call asks only for what it may ask for, and ends as its last access
tells. -/
theorem Call.upholds_operation {c : Service.Call} (hc : task.call = c) (h : Chronicle past)
    (hb : lastAccess task.number past = some (.begun task, before))
    (ha : World.Admits past c) :
    (c.operation task.service).Upholds task Proper
      (fun res later => Ended task later res) past := by
  cases c with
  | create i role payload => exact upholds_create hc hb
  | update i role payload => exact upholds_update hc hb
  | answerChallenge subscriberId keyId challenge => exact upholds_answerChallenge hc hb
  | pushStatus i status => exact upholds_pushStatus hc hb
  | get i => exact upholds_get hb
  | readiness => exact upholds_readiness
  | resume => exact upholds_resume
  | register r kind =>
    obtain ⟨keys, hk⟩ := h.exists_keys ha
    exact upholds_round hc hb hk

end Service

end Enrolment
