import Enrolment.Proofs.Alone
import Enrolment.Proofs.Conduct.Requests
import Enrolment.Proofs.Passages
import Enrolment.Proofs.Standing

/-!
# Rounds that are resumed

What a round is for is not kept with the record: whether the registration was
made or made again is told by the version of a record that waits.  It is told
rightly, since a record is made at version one, and whatever moves it back to
waiting raises its version; so a process that starts anew resumes each round as
it was begun.

A process that starts finds every record that waits and starts one round for
each.

## Main definitions

* `RoundBegun` — what began the wait of a record, and the kind of its rounds.
* `roundsBy` — the rounds that a task has started.
* `World.Resumed` — a task has started the rounds that were due.

## Main statements

* `Chronicle.roundBegun` — a record that waits tells what began its wait.
* `World.Reachable.told_rounds` — every round is started with the kind that its
  record tells.
* `World.Reachable.resumption` — rounds are resumed as they were begun.
-/

namespace Enrolment

variable {task : Task} {past earlier start : List Occurrence} {o : Occurrence} {i : Identity}
  {r new : Record} {change : Change} {role : String} {payload : Payload} {k : Nat}

/-! ## What a waiting record tells -/

theorem RoundKind.ofRecord_of_le (h : r.version ≤ 1) : ofRecord r = .initial :=
  if_neg (Nat.not_lt.2 h)

theorem RoundKind.ofRecord_of_lt (h : 1 < r.version) : ofRecord r = .update := if_pos h

/-- What began the wait of a stored record, and the kind of the rounds that are
started for it. -/
inductive RoundBegun (past : List Occurrence) (task : Task) (r : Record) : RoundKind → Prop
  /-- The registration was made, and nothing has changed it. -/
  | made (hc : task.call = .create r.identity r.role r.payload)
      (hw : writes r.identity past = [r]) : RoundBegun past task r .initial
  /-- The registration was made again. -/
  | remade {old : Record} {before : List Record}
      (hc : task.call = .update r.identity r.role r.payload)
      (hw : writes r.identity past = r :: old :: before) : RoundBegun past task r .update

/-- A stored record was written at least once. -/
theorem Chronicle.version_pos (h : Chronicle past) (hr : recordAfter i past = some r) :
    0 < r.version := by
  rw [h.version_eq hr]
  exact List.length_pos_of_ne_nil fun hnil => by simp [recordAfter, hnil] at hr

/-- What begins a wait tells by the version whether it made the registration or
made it again. -/
theorem Commit.version_of_initiated (h : Commit task past new) (hc : Chronicle past)
    (hs : new.status = .initiated) :
    (new.version = 1 ∧ ∃ role payload, task.call = .create new.identity role payload) ∨
      (1 < new.version ∧ ∃ role payload, task.call = .update new.identity role payload) := by
  cases h with
  | made hcall _ _ _ => exact .inl ⟨rfl, _, _, hcall⟩
  | @revised old next ho hrev =>
    rcases hrev.parts with ⟨hne, -⟩ | ⟨-, hcall, -⟩
    · exact absurd hs hne
    · exact .inr ⟨Nat.succ_lt_succ (hc.version_pos ho), _, _, hrev.identity_eq ▸ hcall⟩

/-- A record that waits tells by its version what began its wait. -/
theorem Chronicle.roundBegun (h : Chronicle past) (hr : recordAfter i past = some r)
    (hs : r.status = .initiated) :
    ∃ task, LastWait i past task r ∧ RoundBegun past task r (.ofRecord r) := by
  obtain ⟨task, new, hlast, hb⟩ := h.lastWait hr
  obtain rfl : new = r := hb.waits hs
  obtain rfl : new.identity = i := identity_of_recordAfter hr
  obtain ⟨rest, hwrites⟩ := List.head?_eq_some_iff.1 hr
  have hlength : new.version = rest.length + 1 := by
    rw [h.version_eq hr, hwrites, List.length_cons]
  refine ⟨task, hlast, ?_⟩
  obtain ⟨later, o, earlier, rfl, rfl, hw, -, -, -⟩ := hlast
  have hwrite : Chronicle (o :: earlier) := h.of_suffix (List.suffix_append _ _)
  rcases (hwrite.commit hw).version_of_initiated hwrite.tail hs with
    ⟨hone, _, _, hmade⟩ | ⟨hlt, _, _, hremade⟩
  · rw [RoundKind.ofRecord_of_le (by omega)]
    obtain rfl : rest = [] := List.length_eq_zero_iff.1 (by omega)
    refine .made ?_ hwrites
    rcases hb.parts with hcall | hcall
    · exact hcall
    · rw [hcall] at hmade
      cases hmade
  · rw [RoundKind.ofRecord_of_lt hlt]
    cases rest with
    | nil =>
      rw [List.length_nil] at hlength
      omega
    | cons old before =>
      refine .remade ?_ hwrites
      rcases hb.parts with hcall | hcall
      · rw [hcall] at hremade
        cases hremade
      · exact hcall

/-! ## Starting rounds -/

/-- Rounds are started with the kind that the record tells. -/
def ToldRounds : Guarantee
  | .answered _ (.schedule r kind) _, _ => kind = .ofRecord r
  | _, _ => True

/-- A guarantee that asks something of starting rounds only. -/
def Guarantee.AboutRounds (G : Guarantee) : Prop :=
  ∀ task ask reply past, ask.starts = false → G (.answered task ask reply) past

theorem aboutRounds_toldRounds : ToldRounds.AboutRounds := by
  intro task ask reply past h
  cases ask with
  | schedule => cases h
  | _ => trivial

variable {G : Guarantee}

theorem Operation.Local.upholds_of_aboutRounds {α : Type} {x : Operation α} (h : x.Local)
    {Q : Except ServiceError α → List Occurrence → Prop} (hG : G.AboutRounds)
    (hx : x.Upholds task (fun _ _ => True) Q past) : x.Upholds task G Q past :=
  h.guarded hx fun _ reply past' ha => hG _ _ reply past' (Ask.starts_of_isLocal ha)

/-- The same, whatever it ends with. -/
theorem Operation.Local.upholds_rounds {α : Type} {x : Operation α} (h : x.Local)
    (hG : G.AboutRounds) : x.Upholds task G (fun _ _ => True) past :=
  h.upholds_of_aboutRounds hG (h.upholds fun _ _ _ _ => trivial)

/-- Making a registration again changes the record. -/
theorem makeAgain_ne_none {now : Moment} : makeAgain role payload now r ≠ .ok none := by
  unfold makeAgain
  cases hp : permit r.status .reRegistered with
  | error e => exact nofun
  | ok outcome =>
    cases outcome with
    | advance next => exact nofun
    | ignore =>
      cases hs : r.status <;> rw [hs] at hp <;> cases hp

/-- A change that is always needed leaves a record that it has made of the one
before. -/
theorem upholds_reviseWithin_changed {rounds : Nat}
    (hch : ∀ now r, change now r ≠ .ok none) :
    (reviseWithin i change rounds).Upholds task (fun _ _ => True)
      (fun res _ => ∀ r, res = .ok r → ∃ now old next, old.identity = i ∧ 0 < old.version ∧
        change now old = .ok (some next) ∧ r = { next with version := old.version + 1 }) past := by
  induction rounds generalizing past with
  | zero => exact Operation.Upholds.throw (by rintro _ ⟨⟩)
  | succ rounds ih =>
    rw [reviseWithin]
    apply Operation.Upholds.ask_bind
    intro past₁ _ c₁ found ht
    refine ⟨trivial, ?_⟩
    rcases ht with ⟨-, rfl⟩ | ⟨current, hcur, rfl⟩
    · exact Operation.Upholds.throw (by rintro _ ⟨⟩)
    rw [Operation.ofStore_ok, pure_bind]
    apply Operation.Upholds.ask_bind
    intro past₂ _ _ now _
    refine ⟨trivial, ?_⟩
    cases hdecided : change now current with
    | error e => exact Operation.Upholds.throw (by rintro _ ⟨⟩)
    | ok decided =>
    rw [Operation.ofExcept_ok, pure_bind]
    cases decided with
    | none => exact absurd hdecided (hch now current)
    | some next =>
    apply Operation.Upholds.ask_bind
    intro past₃ _ _ put hput
    refine ⟨trivial, ?_⟩
    rcases hput with ⟨-, rfl⟩ | ⟨old, -, ⟨-, rfl⟩ | ⟨-, rfl⟩⟩
    · exact Operation.Upholds.throw (by rintro _ ⟨⟩)
    · refine Operation.Upholds.pure ?_
      rintro r ⟨⟩
      exact ⟨now, current, next, identity_of_recordAfter hcur, c₁.version_pos hcur, hdecided, rfl⟩
    · exact ih

namespace Service

/-- A registration that is made starts a round for itself, at version one. -/
theorem upholds_create_rounds (hG : G.AboutRounds) (hround : ∀ r reply past', r.identity = i →
      r.role = role → r.payload = payload → r.version = 1 →
        G (.answered task (.schedule r .initial) reply) past') :
    (create i role payload).Upholds task G (fun _ _ => True) past := by
  apply Operation.Upholds.ask_bind
  intro past₁ _ _ now _
  refine ⟨hG _ _ now past₁ rfl, ?_⟩
  cases hmake : Record.make i role payload now with
  | error e => exact Operation.Upholds.throw trivial
  | ok fresh =>
  obtain ⟨-, rfl⟩ := Record.make_eq_ok_iff.1 hmake
  rw [Operation.ofExcept_ok, pure_bind]
  refine Operation.Upholds.bind ((Keys.local_ensure i.keyId).upholds_rounds hG) ?_
    fun _ _ _ _ => trivial
  intro publicKeys past₂ _ _
  apply Operation.Upholds.ask_bind
  intro past₃ _ _ put hput
  refine ⟨hG _ _ put past₃ rfl, ?_⟩
  rcases hput with ⟨-, rfl⟩ | ⟨-, rfl⟩
  · apply Operation.Upholds.ask_bind
    intro past₄ _ _ reply _
    exact ⟨hround _ reply past₄ rfl rfl rfl rfl, Operation.Upholds.pure trivial⟩
  · refine Operation.Local.upholds_rounds (.ask_bind rfl fun found =>
      (Operation.Asks.ofStore found).seq fun existing => ?_) hG
    by_cases hsame : existing.sameRegistration role payload = true
    · simp only [hsame, if_true]
      exact .pure trivial
    · simp only [hsame]
      exact .throw trivial

/-- A registration that is made again starts a round for itself, at a later
version. -/
theorem upholds_update_rounds (hG : G.AboutRounds) (hround : ∀ r reply past', r.identity = i →
      r.role = role → r.payload = payload → 1 < r.version →
        G (.answered task (.schedule r .update) reply) past') :
    (update i role payload).Upholds task G (fun _ _ => True) past := by
  refine Operation.Upholds.bind (Operation.Local.upholds_rounds (.ofExcept _) hG) ?_
    fun _ _ _ _ => trivial
  intro _ past₁ _ _
  refine Operation.Upholds.bind (Operation.Local.upholds_rounds (.ofExcept _) hG) ?_
    fun _ _ _ _ => trivial
  intro _ past₂ _ _
  apply Operation.Upholds.ask_bind
  intro past₃ _ _ found _
  refine ⟨hG _ _ found past₃ rfl, ?_⟩
  refine Operation.Upholds.bind (Operation.Local.upholds_rounds (.ofStore found) hG) ?_
    fun _ _ _ _ => trivial
  intro _ past₄ _ _
  refine Operation.Upholds.bind ((Keys.local_publicKeys i.keyId).upholds_rounds hG) ?_
    fun _ _ _ _ => trivial
  intro publicKeys past₅ _ _
  refine Operation.Upholds.bind ((local_revise i _).upholds_of_aboutRounds hG
    (upholds_reviseWithin_changed fun _ _ => makeAgain_ne_none)) ?_ fun _ _ _ _ => trivial
  intro stored past₆ _ hstored
  obtain ⟨now, old, next, rfl, hpos, hchange, rfl⟩ := hstored stored rfl
  obtain ⟨-, rfl⟩ := makeAgain_eq_some_iff.1 hchange
  apply Operation.Upholds.ask_bind
  intro past₇ _ _ reply _
  exact ⟨hround _ reply past₇ rfl rfl rfl (Nat.succ_lt_succ hpos), Operation.Upholds.pure trivial⟩

/-- Rounds that are resumed have the kind that is asked for. -/
theorem toldRounds_resume : resume.Upholds task ToldRounds (fun _ _ => True) past := by
  apply Operation.Upholds.ask_bind
  rintro past₁ - - found ⟨pending, rfl, -⟩
  refine ⟨trivial, ?_⟩
  rw [Operation.ofStore_ok, pure_bind]
  refine Operation.Upholds.bind (Q := fun _ _ => True) ?_
    (fun _ _ _ _ => Operation.Upholds.pure trivial) fun _ _ _ _ => trivial
  apply Operation.Upholds.forM
  intro r _ past₂ _
  exact Operation.Upholds.ask (a := .schedule r (.ofRecord r)) (Q := fun _ _ => True)
    fun _ _ _ _ _ => ⟨rfl, trivial⟩

/-- Every call starts rounds with the kind that the record tells. -/
theorem Call.toldRounds_operation (c : Service.Call) (s : Service) :
    (c.operation s).Upholds task ToldRounds (fun _ _ => True) past := by
  have hG := aboutRounds_toldRounds
  cases c with
  | create i role payload =>
    exact upholds_create_rounds hG fun r _ _ _ _ _ hone =>
      (RoundKind.ofRecord_of_le (Nat.le_of_eq hone)).symm
  | update i role payload =>
    exact upholds_update_rounds hG fun r _ _ _ _ _ hlt => (RoundKind.ofRecord_of_lt hlt).symm
  | resume => exact toldRounds_resume
  | answerChallenge subscriberId keyId challenge =>
    exact (local_answerChallenge s subscriberId keyId challenge).upholds_rounds hG
  | pushStatus i status => exact (local_pushStatus i status).upholds_rounds hG
  | get i => exact (local_get i).upholds_rounds hG
  | readiness => exact local_readiness.upholds_rounds hG
  | register r kind =>
    exact (asks_register s r kind).upholds fun _ reply past' ha => hG _ _ reply past' ha

end Service

/-! ## Resuming rounds -/

/-- The round that was started. -/
def Occurrence.round? : Occurrence → Option (Record × RoundKind)
  | .answered _ (.schedule r kind) _ => some (r, kind)
  | _ => none

/-- The rounds that a task has started, the latest first. -/
def roundsBy (k : Nat) (past : List Occurrence) : List (Record × RoundKind) :=
  past.filterMap fun o => if o.task.number = k then o.round? else none

/-- What others do starts no rounds of a task. -/
theorem roundsBy_of_byOthers (h : ByOthers k earlier past) :
    roundsBy k past = roundsBy k earlier := by
  obtain ⟨more, rfl, hmore⟩ := h
  rw [roundsBy, List.filterMap_append, ← roundsBy]
  refine (congrArg (· ++ _) (List.filterMap_eq_nil_iff.2 fun o ho => ?_)).trans (List.nil_append _)
  rw [if_neg (hmore o ho)]

theorem roundsBy_cons_self {ask : Ask} {reply : ask.Reply} :
    roundsBy task.number (.answered task ask reply :: past) =
      (Occurrence.round? (.answered task ask reply)).toList ++ roundsBy task.number past := by
  simp only [roundsBy, List.filterMap_cons]
  cases Occurrence.round? (.answered task ask reply) <;> simp [Occurrence.task]

namespace Follows

/-- A task that has started a round for each of some records. -/
theorem schedules {rs : List Record} {n : Nat} {res : Except ServiceError Nat}
    (h : Follows task ((rs.forM fun r => Operation.ask (.schedule r (.ofRecord r))) >>=
      fun _ => (pure n : Operation Nat)).run start past (.done res)) :
    res = .ok n ∧ roundsBy task.number past =
      (rs.map fun r => (r, RoundKind.ofRecord r)).reverse ++ roundsBy task.number start := by
  induction rs generalizing start with
  | nil =>
    obtain ⟨hres, hothers⟩ := done_cases h
    exact ⟨Plan.done.inj hres, roundsBy_of_byOthers hothers⟩
  | cons r rs ih =>
    rcases operation_step_cases h with ⟨⟨next, hstep⟩, -⟩ | ⟨mid, reply, hothers, hn⟩
    · cases hstep
    · obtain ⟨hres, hrounds⟩ := ih hn
      refine ⟨hres, ?_⟩
      rw [hrounds, roundsBy_cons_self, roundsBy_of_byOthers hothers]
      simp [Occurrence.round?]

end Follows

/-- Nothing else is asked by a call that resumes rounds. -/
theorem Service.asks_resume : Service.resume.Asks
    (fun ask => ask = .withStatus .initiated ∨ ask.starts = true) fun _ => True := by
  have hall (records : List Record) : Operation.Asks
      (fun ask => ask = .withStatus .initiated ∨ ask.starts = true) (fun _ => True)
      (records.forM fun r => Operation.ask (.schedule r (.ofRecord r))) := by
    induction records with
    | nil => exact .pure trivial
    | cons r records ih => exact .ask_bind (.inr rfl) fun _ => ih
  refine .ask_bind (.inl rfl) fun found => (Operation.Asks.ofStore found).seq fun pending => ?_
  exact (hall pending).seq fun _ => .pure trivial

/-- A call that resumes rounds and runs alone counts the records that wait, and
leaves the store as it is. -/
theorem Service.alone_resume (d : Draws) (s : Store) :
    Service.resume.Alone d s (.ok (s.withStatus .initiated).length) s := by
  have hall (records : List Record) : Operation.Alone d
      (records.forM fun r => Operation.ask (.schedule r (.ofRecord r))) s (.ok ()) s := by
    induction records with
    | nil => exact .pure () s
    | cons r records ih => exact .ask_bind rfl ih
  refine .ask_bind rfl ?_
  rw [Operation.ofStore_ok, pure_bind]
  exact .bind (hall _) (.pure _ s)

namespace World

variable {w : World}

/-- Every round is started with the kind that its record tells. -/
theorem Reachable.told_rounds (h : w.Reachable) {kind : RoundKind} {reply : Unit}
    (ho : .answered task (.schedule r kind) reply ∈ w.past) : kind = .ofRecord r := by
  obtain ⟨later, earlier, hsplit⟩ := List.append_of_mem ho
  exact h.of_answered (G := ToldRounds) (fun _ => Service.Call.toldRounds_operation _ _)
    ⟨later, hsplit.symm⟩

/-- No listing of a run shows a record twice. -/
theorem Reachable.nodup_listed (h : w.Reachable) {status : Status} {rs : List Record}
    (ho : .answered task (.withStatus status) (.ok rs) ∈ w.past) :
    (rs.map Record.identity).Nodup := by
  induction h with
  | refl => cases ho
  | @tail mid last _ hstep ih =>
    cases hstep with
    | call _ _ =>
      rcases List.mem_cons.1 ho with heq | ho
      · cases heq
      · exact ih ho
    | @answer asked ask _ reply s _ ha =>
      have hcases : .answered task (.withStatus status) (.ok rs) ∈ mid.past ∨
          Occurrence.answered task (.withStatus status) (.ok rs) = .answered asked ask reply := by
        cases ask with
        | schedule r kind => simpa [spawn, World.begin, World.answer] using ho
        | _ => simpa [spawn, World.answer, or_comm] using ho
      rcases hcases with ho | heq
      · exact ih ho
      · cases heq
        obtain ⟨⟨rs', hreply, hperm, -⟩, -⟩ := ha
        obtain rfl : rs = rs' := Except.ok.inj hreply
        exact (hperm.map _).nodup_iff.2 Store.nodup_withStatus
    | restart _ => exact ih ho

/-- A call has started the rounds that were due: at one moment it listed the
records that waited, and then it started one round for each of them. -/
def Resumed (w : World) (task : Task) (res : Except ServiceError Nat) : Prop :=
  ∃ (v : World) (earlier : List Occurrence) (rs : List Record), v.Amid task w ∧
    v.past = .answered task (.withStatus .initiated) (.ok rs) :: earlier ∧
    (rs.map Record.identity).Nodup ∧
    (∀ r, r ∈ rs ↔ v.store.get? r.identity = some r ∧ r.status = .initiated) ∧
    roundsBy task.number w.past = (rs.map fun r => (r, RoundKind.ofRecord r)).reverse ∧
    res = .ok rs.length

/-- A call that resumes rounds and has ended has started those that were due. -/
theorem Reachable.resumed (h : w.Reachable) {number process : Nat} {s : Service}
    {res : Except ServiceError Nat}
    (hr : (⟨⟨number, process, s, .resume⟩, .done res⟩ : Running) ∈ w.running) :
    w.Resumed ⟨number, process, s, .resume⟩ res := by
  have hchron := h.sound.chronicle
  obtain ⟨before, hf⟩ := (h.course hr).follows
  rcases Follows.operation_step_cases hf with ⟨⟨_, hstep⟩, -⟩ | ⟨mid, reply, hothers, hn⟩
  · cases hstep
  have hsuffix := hn.suffix
  obtain ⟨rs, rfl, hrs⟩ := hchron.told hsuffix
  obtain ⟨v, hamid, hpast⟩ := h.exists_amid hsuffix rfl
  obtain ⟨hres, hrounds⟩ := Follows.schedules hn
  refine ⟨v, mid, rs, hamid, hpast, h.nodup_listed (hsuffix.subset List.mem_cons_self), ?_, ?_,
    hres⟩
  · intro r
    rw [hrs, hamid.reachable.sound.get?_eq, hpast]
    rfl
  -- Nothing had happened to the task before it listed the records.
  · have hbegun : Chronicle (.begun ⟨number, process, s, .resume⟩ :: before) :=
      hchron.of_suffix (hothers.suffix.trans ((List.suffix_cons _ mid).trans hsuffix))
    have hnone : roundsBy number (.begun ⟨number, process, s, .resume⟩ :: before) = [] := by
      cases hbegun with
      | begun _ _ hfresh =>
        refine List.filterMap_eq_nil_iff.2 fun o ho => ?_
        rcases List.mem_cons.1 ho with rfl | ho
        · exact if_pos rfl
        · exact if_neg (hfresh o ho)
    rw [hrounds, roundsBy_cons_self, roundsBy_of_byOthers hothers, hnone]
    exact List.append_nil _

/-- **Rounds are resumed as they were begun.**  A record that waits tells what
began its wait, and every round for it is started as one of that kind.  A call
that resumes rounds starts one for every record that waits, as it is stored, and
for no other; it returns their number and writes nothing. -/
theorem Reachable.resumption (h : w.Reachable) :
    (∀ i r, w.store.get? i = some r → r.status = .initiated →
      ∃ task, LastWait i w.past task r ∧ RoundBegun w.past task r (.ofRecord r)) ∧
    (∀ task r kind reply, .answered task (.schedule r kind) reply ∈ w.past → kind = .ofRecord r) ∧
    (∀ number process s,
      (∀ res, (⟨⟨number, process, s, .resume⟩, .done res⟩ : Running) ∈ w.running →
        w.Resumed ⟨number, process, s, .resume⟩ res) ∧
      ∀ o ∈ w.past, o.task = ⟨number, process, s, .resume⟩ →
        o.written? = none ∧ ∀ keyId, o.offered? keyId = none) ∧
    ∀ d, Service.resume.Alone d w.store (.ok (w.store.withStatus .initiated).length) w.store := by
  refine ⟨?_, fun _ _ _ _ => h.told_rounds, ?_, fun d => Service.alone_resume d w.store⟩
  · intro i r hr hs
    exact h.sound.chronicle.roundBegun (h.sound.get?_eq i ▸ hr) hs
  · intro number process s
    refine ⟨fun res => h.resumed, ?_⟩
    intro o ho htask
    cases o with
    | begun => exact ⟨rfl, fun _ => rfl⟩
    | answered task ask reply =>
      obtain rfl : task = ⟨number, process, s, .resume⟩ := htask
      obtain ⟨running, hmem, hrunning⟩ := List.mem_map.1 (h.sound.known _ ho)
      obtain ⟨task, rest⟩ := running
      obtain rfl : task = ⟨number, process, s, .resume⟩ := hrunning
      rcases ((h.course hmem).asks h.sound.chronicle Service.asks_resume.run).2 ask reply ho with
        rfl | hstarts
      · exact ⟨rfl, fun _ => rfl⟩
      · cases ask with
        | schedule => exact ⟨rfl, fun _ => rfl⟩
        | _ => cases hstarts

/-- The call has ended with the number of rounds. -/
def hasResumed (n : Nat) (running : Running) : Bool :=
  match running with
  | ⟨⟨_, _, _, .resume⟩, .done (.ok m)⟩ => m = n
  | _ => false

/-- Another process finds that the registration waits, as it was made, and starts
a round for it. -/
theorem resumption_twoRounds : ∃ (w : World) (r : Record) (task : Task), w.Reachable ∧
    w.store.get? sampleIdentity = some r ∧ r.status = .initiated ∧
      RoundKind.ofRecord r = .initial ∧ RoundBegun w.past task r (.ofRecord r) ∧
        ∃ resumer, w.Resumed resumer (.ok 1) := by
  have hreach : (empty.play twoRounds).Reachable := leads_play _ _
  have hwaits : ((empty.play twoRounds).store.get? sampleIdentity).map
      (fun r => (r.status, r.version)) = some (.initiated, 1) := by
    decide +kernel
  have hresumed : ((empty.play twoRounds).running[2]?).map (hasResumed 1) = some true := by
    decide +kernel
  obtain ⟨r, hr, heq⟩ := Option.map_eq_some_iff.1 hwaits
  obtain ⟨hs, hv⟩ := Prod.mk.inj heq
  obtain ⟨running, hrunning, hcount⟩ := Option.map_eq_some_iff.1 hresumed
  have hmem := List.mem_of_getElem? hrunning
  obtain ⟨hbegun, -, hdone, -⟩ := hreach.resumption
  obtain ⟨task, -, hround⟩ := hbegun sampleIdentity r hr hs
  unfold hasResumed at hcount
  split at hcount
  · rename_i number process s m
    obtain rfl : m = 1 := by simpa using hcount
    exact ⟨_, r, task, hreach, hr, hs, RoundKind.ofRecord_of_le (Nat.le_of_eq hv), hround, _,
      (hdone number process s).1 (.ok 1) hmem⟩
  · cases hcount

end World

end Enrolment
