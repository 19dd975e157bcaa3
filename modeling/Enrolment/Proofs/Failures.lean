import Enrolment.Proofs.Course
import Enrolment.Proofs.Schedule

/-!
# Calls that fail

A call may fail at many points: its parts do not pass the checks, there is no
record, the status does not permit the event, the challenge cannot be opened,
others were always faster, or the registry did not answer.  Wherever it fails, it
has written no record and started no round.  It may have stored a keyset, if
somebody else made the registration in the meantime; a call that ran alone has
not.

## Main statements

* `Service.Call.upholds_uncommitted` — a call that fails has written nothing.
* `Service.Call.upholds_create_failed` — a registration is not made because its parts
  do not pass the checks, or because there is one.
* `World.Reachable.failed` — a call that failed changed nothing.
-/

namespace Enrolment

variable {task : Task} {past before : List Occurrence}

/-! ## Writes -/

theorem Settled.uncommitted {k : Nat} {i : Identity} {change : Change} {e : ServiceError}
    (h : Settled k i change past (.error e)) : Uncommitted k past := by
  cases h with
  | @told o earlier now _ ha _ _ hv =>
    intro o' earlier' ho
    rw [ha] at ho
    cases ho
    have hclean : (change.verdict i now (recordAfter i earlier)).Clean := Verdict.clean_change
    rw [hv] at hclean
    exact hclean e rfl
  | lost hu => exact hu

/-- A call that names its record and fails has written nothing. -/
theorem Ended.uncommitted {c : Service.Call} {e : ServiceError}
    (h : Ended task past (c := c) (.error e)) (hi : c.subject? ≠ none) :
    Uncommitted task.number past := by
  cases h with
  | told outcome now ha _ _ _ hv =>
    intro o' earlier' ho
    rw [ha] at ho
    cases ho
    exact Service.Call.clean_verdict hv e rfl
  | lost hu | unanswered hu => exact hu
  | unnamed hn => exact absurd hn hi

namespace Service

/-- A challenge without a key that is not answered has changed no record. -/
theorem upholds_answerChallenge_none {subscriberId challenge : String}
    (hc : task.call = .answerChallenge subscriberId none challenge)
    (hb : lastAccess task.number past = some (.begun task, before)) :
    (task.service.answerChallenge subscriberId none challenge).Upholds task Proper
      (fun res later => ∀ e, res = .error e → Uncommitted task.number later) past := by
  have hu : Uncommitted task.number past := uncommitted_of_begun hb
  refine Operation.Upholds.bind upholds_findChallenged ?_ ?_
  · rintro current past₁ - ⟨q₁, hcur⟩
    obtain ⟨rfl, hk⟩ := hcur current rfl
    obtain ⟨keys, hk⟩ := Option.ne_none_iff_exists'.1 hk
    refine (upholds_answer (i := current.identity) hc nofun hk (hu.quiet q₁)).mono ?_
    rintro res later - (⟨q₂, -⟩ | ⟨answer, decided, -, hset, rfl⟩) e he
    · exact hu.quiet (q₁.trans q₂)
    · cases decided with
      | ok stored => cases he
      | error e' => exact hset.uncommitted
  · rintro e past₁ - ⟨q₁, -⟩ e' -
    exact hu.quiet q₁

/-- A call that fails has written nothing. -/
theorem Call.upholds_uncommitted {c : Service.Call} (hc : task.call = c) (h : Chronicle past)
    (hb : lastAccess task.number past = some (.begun task, before)) (ha : World.Admits past c)
    (hquiet : c ≠ .readiness ∧ c ≠ .resume) :
    (c.operation task.service).Upholds task Proper
      (fun res later => ∀ e, res = .error e → Uncommitted task.number later) past := by
  have hnamed (hi : c.subject? ≠ none) : (c.operation task.service).Upholds task Proper
      (fun res later => ∀ e, res = .error e → Uncommitted task.number later) past := by
    refine (Call.upholds_operation hc h hb ha).mono ?_
    rintro res later - hended e rfl
    exact hended.uncommitted hi
  cases c with
  | answerChallenge subscriberId keyId challenge =>
    cases keyId with
    | none => exact upholds_answerChallenge_none hc hb
    | some keyId => exact hnamed (by simp [Call.subject?])
  | readiness => exact absurd rfl hquiet.1
  | resume => exact absurd rfl hquiet.2
  | create | update | pushStatus | get | register => exact hnamed (by simp [Call.subject?])

/-- Taking stock, and starting the rounds that are due, meet no record. -/
theorem Call.asks_quiet {c : Service.Call} (s : Service) (hc : c = .readiness ∨ c = .resume) :
    (c.operation s).Asks (·.isAccess = false) fun _ => True := by
  rcases hc with rfl | rfl
  · refine Operation.Asks.mapM fun status => .ask_bind rfl fun found => ?_
    exact (Operation.Asks.ofStore found).seq fun _ => .pure trivial
  · have hall (records : List Record) : Operation.Asks (·.isAccess = false) (fun _ => True)
        (records.forM fun r => Operation.ask (.schedule r (.ofRecord r))) := by
      induction records with
      | nil => exact .pure trivial
      | cons r records ih => exact .ask_bind rfl fun _ => ih
    refine .ask_bind rfl fun found => (Operation.Asks.ofStore found).seq fun records => ?_
    exact (hall records).seq fun _ => .pure trivial

/-! ## Keysets -/

/-- A registration of parts that do not pass the checks asks for the time only. -/
theorem Call.asks_create_of_error {c : Service.Call} (s : Service) {i : Identity} {role : String}
    {payload : Payload} (hc : c = .create i role payload)
    (h : ∀ now r, Record.make i role payload now ≠ .ok r) :
    (c.operation s).Asks (· = .clock) fun _ => True := by
  subst hc
  refine .ask_bind rfl fun now => ?_
  cases hm : Record.make i role payload now with
  | ok fresh => exact absurd hm (h now fresh)
  | error e => exact .throw trivial

/-- A registration is not made because its parts do not pass the checks, or
because there is one. -/
theorem Call.upholds_create_failed {c : Service.Call} (ht : task.call = c) {i : Identity}
    {role : String} {payload : Payload} (hc : c = .create i role payload) :
    (c.operation task.service).Upholds task (fun _ _ => True) (fun res later =>
      ∀ e, res = .error e → (∀ now r, Record.make i role payload now ≠ .ok r) ∨
        recordAfter i later ≠ none) past := by
  subst hc
  apply Operation.Upholds.ask_bind
  intro past₁ _ _ now _
  refine ⟨trivial, ?_⟩
  cases hm : Record.make i role payload now with
  | error e =>
    refine Operation.Upholds.throw fun _ _ => .inl ?_
    intro now' r hr
    have hchecks := (Record.make_eq_ok_iff.1 hr).1
    rw [Record.make_eq_ok_iff.2 ⟨hchecks, rfl⟩] at hm
    cases hm
  | ok fresh =>
  rw [Operation.ofExcept_ok, pure_bind]
  refine Operation.Upholds.bind ((Keys.local_ensure i.keyId).guarded (Keys.upholds_ensure ht)
    fun _ _ _ _ => trivial) ?_ ?_
  · intro publicKeys past₂ _ _
    obtain rfl : fresh.identity = i := (Record.make_eq_ok_iff.1 hm).2 ▸ rfl
    apply Operation.Upholds.ask_bind
    intro past₃ _ _ put hput
    refine ⟨trivial, ?_⟩
    rcases hput with ⟨-, rfl⟩ | ⟨hsome, rfl⟩
    · apply Operation.Upholds.ask_bind
      intro past₄ _ _ _ _
      exact ⟨trivial, Operation.Upholds.pure fun _ he => nomatch he⟩
    · refine (Operation.Upholds.of_stable (F := fun later =>
        recordAfter fresh.identity later ≠ none) ?_).mono fun _ _ _ hthere _ _ => .inr hthere
      intro later hs
      exact recordAfter_ne_none_mono ((List.suffix_cons _ past₃).trans hs) hsome
  · rintro e past₂ - ⟨-, ⟨keys, hres⟩, -⟩
    cases hres

end Service

/-! ## Runs -/

/-- The task asked for a round to be started. -/
def Occurrence.startsRound : Occurrence → Bool
  | begun _ => false
  | answered _ ask _ => ask.starts

theorem Occurrence.startsRound_of_isAccess {o : Occurrence} (h : o.isAccess = true) :
    o.startsRound = false := by
  cases o with
  | begun task => rfl
  | answered task ask reply =>
    cases ask with
    | schedule => cases h
    | _ => rfl

/-- Offers that are not taken leave the keyset of a key what it was. -/
theorem keysAfter_append {keyId : String} {own : List Occurrence}
    (h : keysAfter keyId past ≠ none ∨ ∀ o ∈ own, o.offered? keyId = none) :
    keysAfter keyId (own ++ past) = keysAfter keyId past := by
  rcases h with hkeys | hnone
  · obtain ⟨keys, hk⟩ := Option.ne_none_iff_exists'.1 hkeys
    rw [hk, keysAfter_mono (List.suffix_append own past) hk]
  · induction own with
    | nil => rfl
    | cons o own ih =>
      rw [List.cons_append, keysAfter_cons_of_none (hnone o List.mem_cons_self),
        ih fun x hx => hnone x (List.mem_cons_of_mem o hx)]

/-- What wrote nothing leaves the records what they were. -/
theorem recordAfter_append {i : Identity} {own : List Occurrence}
    (h : ∀ o ∈ own, o.written? = none) : recordAfter i (own ++ past) = recordAfter i past := by
  induction own with
  | nil => rfl
  | cons o own ih =>
    rw [List.cons_append, recordAfter_cons_of_none (h o List.mem_cons_self),
      ih fun x hx => h x (List.mem_cons_of_mem o hx)]

namespace World

variable {w : World} {e : ServiceError}

/-- A call that failed has written nothing. -/
theorem Reachable.unwritten (h : w.Reachable)
    (hr : (⟨task, .done (.error e)⟩ : Running) ∈ w.running) :
    ∀ o ∈ w.past, o.task = task → o.written? = none := by
  have hchron := h.sound.chronicle
  have hcourse := h.course hr
  intro o ho htask
  by_cases hquiet : task.call = .readiness ∨ task.call = .resume
  · have hasks := (hcourse.asks hchron (Service.Call.asks_quiet task.service hquiet).run).2
    cases o with
    | begun => rfl
    | answered task' ask reply =>
      obtain rfl : task' = task := htask
      by_contra hne
      obtain ⟨new, hnew⟩ := Option.ne_none_iff_exists'.1 hne
      have haccess : ask.isAccess = true := Occurrence.isAccess_of_written hnew
      rw [hasks ask reply ho] at haccess
      cases haccess
  · have hupholds := hcourse.upholds (G := Proper)
      (Q := fun res later => ∀ e, res = .error e → Uncommitted task.number later) hchron ?_ ?_
    · have hu : Uncommitted task.number w.past := hupholds.1 e rfl
      by_contra hne
      obtain ⟨new, hnew⟩ := Option.ne_none_iff_exists'.1 hne
      obtain ⟨later, earlier, hsplit⟩ := List.append_of_mem ho
      have hlast := hchron.lastAccess_of_written ⟨later, hsplit.symm⟩ hnew
      exact hne (hu o earlier (htask ▸ hlast))
    · intro before hs
      have hbegun := hchron.of_suffix hs
      exact (Service.Call.upholds_uncommitted rfl hbegun
        (lastAccess_cons_self (o := .begun task) rfl) (Course.admits hbegun)
        (not_or.1 hquiet)).run
    · intro res o past ho hu e he
      exact (hu e he).quiet ((Since.refl past).cons fun hk => absurd hk ho)

/-- A call that failed has started no round. -/
theorem Reachable.unstarted (h : w.Reachable)
    (hr : (⟨task, .done (.error e)⟩ : Running) ∈ w.running) :
    ∀ o ∈ w.past, o.task = task → o.startsRound = false := by
  have hchron := h.sound.chronicle
  have hcourse := h.course hr
  rintro (task' | ⟨task', ask, reply⟩) ho htask
  · rfl
  obtain rfl : task' = task := htask
  cases hround : task'.call.isRound with
  | true =>
    have hplan : task'.plan.Asks (·.starts = false) fun _ => True :=
      (Service.Call.asks_of_isRound task'.service hround).run
    exact (hcourse.asks hchron hplan).2 ask reply ho
  | false =>
    have hplan : task'.plan.Settles :=
      (Service.Call.settles_operation task'.service hround).run
    rcases hcourse.settles hchron hplan with ⟨-, hlocal⟩ | hends
    · exact Ask.starts_of_isLocal (hlocal ask reply ho)
    · cases hends

/-- A call that failed and offered a keyset found a record that others had
made. -/
theorem Reachable.recordAfter_of_offered (h : w.Reachable)
    (hr : (⟨task, .done (.error e)⟩ : Running) ∈ w.running) {keyId : String} {o : Occurrence}
    (ho : o ∈ w.past) (htask : o.task = task) (hoffered : o.offered? keyId ≠ none) :
    ∃ i, i.keyId = keyId ∧ recordAfter i w.past ≠ none := by
  have hchron := h.sound.chronicle
  have hcourse := h.course hr
  obtain ⟨later, earlier, hsplit⟩ := List.append_of_mem ho
  have hchron' := hchron.of_suffix ⟨later, hsplit.symm⟩
  cases o with
  | begun => exact absurd rfl hoffered
  | answered task' ask reply =>
  obtain rfl : task' = task := htask
  cases ask with
  | offerKeys k keys =>
    obtain rfl : k = keyId := by
      by_contra hne
      simp [Occurrence.offered?, hne] at hoffered
    cases hchron' with
    | answered _ hconduct _ =>
    obtain ⟨i, role, payload, hc, hk⟩ := hconduct
    refine ⟨i, hk, ?_⟩
    have hupholds := hcourse.upholds (G := fun _ _ => True) (Q := fun res later =>
      ∀ e, res = .error e → (∀ now r, Record.make i role payload now ≠ .ok r) ∨
        recordAfter i later ≠ none) hchron ?_ ?_
    · rcases hupholds.1 e rfl with hchecks | hthere
      · -- Parts that do not pass the checks do not come as far as to the keyset.
        have hasks := (hcourse.asks hchron
          (Service.Call.asks_create_of_error task'.service hc hchecks).run).2
        cases hasks _ reply ho
      · exact hthere
    · intro before _
      exact (Service.Call.upholds_create_failed rfl hc).run
    · intro res o past _ hres e he
      exact (hres e he).imp_right (recordAfter_ne_none_mono (List.suffix_cons o past))
  | _ => exact absurd rfl hoffered

/-- **A call that failed has changed nothing.**  It has written no record and
started no round; and if it ran alone, all keysets are what they were, as well as
all records. -/
theorem Reachable.failed (h : w.Reachable)
    (hr : (⟨task, .done (.error e)⟩ : Running) ∈ w.running) :
    (∀ o ∈ w.past, o.task = task → o.written? = none ∧ o.startsRound = false) ∧
    ∀ (before : World) own, before.Reachable → w.past = own ++ .begun task :: before.past →
      (∀ o ∈ own, o.task = task) →
        (∀ i, w.store.get? i = before.store.get? i) ∧
        ∀ keyId, w.store.keys? keyId = before.store.keys? keyId := by
  refine ⟨fun o ho htask => ⟨h.unwritten hr o ho htask, h.unstarted hr o ho htask⟩, ?_⟩
  intro before own hbefore hpast hown
  have hrun : w.past = (own ++ [.begun task]) ++ before.past := by simp [hpast]
  have hmem : ∀ o ∈ own ++ [.begun task], o ∈ w.past ∧ o.task = task := by
    intro o ho
    refine ⟨hrun ▸ List.mem_append_left _ ho, ?_⟩
    rcases List.mem_append.1 ho with ho | ho
    · exact hown o ho
    · obtain rfl := List.mem_singleton.1 ho
      rfl
  have hrecords (i : Identity) : recordAfter i w.past = recordAfter i before.past := by
    rw [hrun]
    exact recordAfter_append fun o ho => h.unwritten hr o (hmem o ho).1 (hmem o ho).2
  constructor
  · intro i
    rw [h.sound.get?_eq, hbefore.sound.get?_eq, hrecords]
  · intro keyId
    have hkeys : keysAfter keyId before.past ≠ none ∨
        ∀ o ∈ own ++ [.begun task], o.offered? keyId = none := by
      by_contra hnot
      push Not at hnot
      obtain ⟨hnone, o, ho, hoffered⟩ := hnot
      obtain ⟨i, rfl, hthere⟩ :=
        h.recordAfter_of_offered hr (hmem o ho).1 (hmem o ho).2 hoffered
      rw [hrecords] at hthere
      exact hbefore.sound.chronicle.keysAfter_ne_none hthere hnone
    have hagree : ∀ {v : World}, v.Reachable → v.store.keys? keyId = keysAfter keyId v.past :=
      fun hv => hv.sound.agree.keys keyId
    rw [hagree h, hagree hbefore, hrun, keysAfter_append hkeys]

/-- A task ran alone since it was called if everything since then has its
number. -/
theorem Reachable.exists_own (h : w.Reachable) {running : Running} (hr : running ∈ w.running)
    {before called : World} {begun : Task} (hb : called.past = .begun begun :: before.past)
    (hl : called.Leads w) (hn : ∀ o ∈ w.past.take (w.past.length - before.past.length),
      o.task.number = running.task.number) :
    ∃ own, w.past = own ++ .begun running.task :: before.past ∧
      ∀ o ∈ own, o.task = running.task := by
  obtain ⟨own, hown⟩ := hl.past
  have hpast : w.past = (own ++ [.begun begun]) ++ before.past := by
    rw [← hown, hb, List.append_assoc, List.singleton_append]
  have htake : w.past.take (w.past.length - before.past.length) = own ++ [.begun begun] := by
    rw [hpast, List.length_append, Nat.add_sub_cancel, List.take_left]
  have hsame : ∀ o ∈ own ++ [.begun begun], o.task = running.task := by
    intro o ho
    obtain ⟨_, hbegun⟩ := (h.course hr).exists_begun
    refine h.sound.task_eq_of_number_eq ?_ (hbegun.subset List.mem_cons_self) (hn o (htake ▸ ho))
    rw [hpast]
    exact List.mem_append_left _ ho
  obtain rfl : begun = running.task := hsame (.begun begun) (by simp)
  exact ⟨own, by rw [← hown, hb], fun o ho => hsame o (List.mem_append_left _ ho)⟩

/-- A registration is made. -/
def made : World := empty.play
  ([.restart .sample, .call 0 (.create sampleIdentity "BAP" (.plain "https://host" "domain"))] ++
    List.replicate 8 (.answer 0 .sample))

/-- The same is asked for in another role. -/
def asked : World :=
  made.next (.call 0 (.create sampleIdentity "BPP" (.plain "https://host" "domain")))

/-- It is refused. -/
def refused : World := asked.play (List.replicate 4 (.answer 2 .sample))

/-- The task has failed. -/
def hasFailed (running : Running) : Bool :=
  match running.rest with
  | .done (.error _) => true
  | _ => false

/-- A second registration in another role fails and leaves the store what it
was. -/
theorem failed_refused : ∃ (w before : World) (task : Task) (e : ServiceError)
    (own : List Occurrence), w.Reachable ∧
    (⟨task, .done (.error e)⟩ : Running) ∈ w.running ∧ before.Reachable ∧
    w.past = own ++ .begun task :: before.past ∧ (∀ o ∈ own, o.task = task) ∧
    before.store.get? sampleIdentity ≠ none ∧
      w.store.get? sampleIdentity = before.store.get? sampleIdentity ∧
        w.store.keys? "key" = before.store.keys? "key" := by
  have hmade : made.Reachable := leads_play _ _
  have hasked : asked.Reachable := Relation.ReflTransGen.tail hmade (step_next (by decide +kernel))
  have hrefused : refused.Reachable := Relation.ReflTransGen.trans hasked (leads_play _ _)
  have hfailed : (refused.running[2]?).map hasFailed = some true := by decide +kernel
  obtain ⟨⟨task, rest⟩, hrunning, hrest⟩ := Option.map_eq_some_iff.1 hfailed
  obtain ⟨e, rfl⟩ : ∃ e, rest = .done (.error e) := by
    unfold hasFailed at hrest
    split at hrest
    · exact ⟨_, ‹_›⟩
    · cases hrest
  have hmem := List.mem_of_getElem? hrunning
  have hnumbers : (refused.past.take (refused.past.length - made.past.length)).map (·.task.number) =
      List.replicate 5 2 := by
    decide +kernel
  obtain ⟨own, hpast, hown⟩ : ∃ own, refused.past = own ++ .begun task :: made.past ∧
      ∀ o ∈ own, o.task = task := by
    have hleads : asked.Leads refused := leads_play _ _
    refine hrefused.exists_own hmem rfl hleads ?_
    intro o ho
    rw [hrefused.sound.numbered 2 _ hrunning]
    exact List.eq_of_mem_replicate (hnumbers ▸ List.mem_map_of_mem ho)
  obtain ⟨hrecords, hkeys⟩ := (hrefused.failed hmem).2 made own hmade hpast hown
  have hthere : (made.store.get? sampleIdentity).isSome = true := by decide +kernel
  refine ⟨refused, made, task, e, own, hrefused, hmem, hmade, hpast, hown, ?_,
    hrecords sampleIdentity, hkeys "key"⟩
  exact Option.isSome_iff_ne_none.1 hthere

end World

end Enrolment
