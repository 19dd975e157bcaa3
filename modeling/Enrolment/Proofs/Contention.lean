import Enrolment.Proofs.Faults

/-!
# Writers that are too late

A change is lost when somebody else has written the record since it was looked
at, and then it is tried again, a limited number of times.  Each time that it is
lost there is another write of somebody else to answer for it.  So a change that
is given up was outpaced by that many writes, and one with fewer rivals comes to
what it says.

## Main definitions

* `rivals` — how many writes of a record are by others.
* `Decided` — a change came to what it says of the record that was stored.
* `Outpaced` — others wrote the record that often while a change was tried.
* `Service.Call.Tries` — the changes that a call tries.

## Main statements

* `Chronicle.rivals_of_conflict` — a replacement that comes too late has a rival.
* `Follows.reviseWithin_ends` — a change is decided, or it is outpaced.
* `World.Reachable.contention` — calls give up only when they are outpaced.
-/

namespace Enrolment

variable {task : Task} {start past earlier later mid : List Occurrence} {o : Occurrence}
  {i j : Identity} {change : Change} {current old next r : Record} {now : Moment} {k n : Nat}
  {rounds : Nat} {e : ServiceError}

/-! ## Writes of others -/

/-- How many writes of an identity are by others than a task. -/
def rivals (k : Nat) (i : Identity) (past : List Occurrence) : Nat :=
  (writes i (past.filter (·.task.number ≠ k))).length

/-- How many writes are by a task. -/
def commits (k : Nat) (past : List Occurrence) : Nat :=
  past.countP fun o => o.task.number = k && o.written?.isSome

/-- Since then the task has written nothing. -/
abbrev Idle (k : Nat) : List Occurrence → List Occurrence → Prop :=
  Since k fun o => o.written? = none

theorem rivals_append : rivals k i (later ++ earlier) = rivals k i later + rivals k i earlier := by
  rw [rivals, List.filter_append, writes_append, List.length_append, ← rivals, ← rivals]

theorem rivals_mono (h : earlier <:+ past) : rivals k i earlier ≤ rivals k i past := by
  obtain ⟨later, rfl⟩ := h
  rw [rivals_append]
  exact Nat.le_add_left _ _

theorem Idle.of_byOthers (h : ByOthers k earlier past) : Idle k earlier past :=
  h.mono fun _ => False.elim

/-- As long as a task writes nothing, every write is one of a rival. -/
theorem Idle.length_writes (h : Idle k earlier past) :
    (writes i past).length + rivals k i earlier = (writes i earlier).length + rivals k i past := by
  obtain ⟨later, rfl, hlater⟩ := h
  have hall : (writes i later).length = rivals k i later := by
    unfold rivals
    induction later with
    | nil => rfl
    | cons o later ih =>
      have hrest := ih fun x hx => hlater x (List.mem_cons_of_mem o hx)
      by_cases hk : o.task.number = k
      · have hnone : o.written? = none := hlater o List.mem_cons_self hk
        rw [writes_cons_of_none hnone, List.filter_cons_of_neg (by simpa using hk), hrest]
      · rw [List.filter_cons_of_pos (by simpa using hk)]
        cases hw : o.written? with
        | none => rw [writes_cons_of_none hw, writes_cons_of_none hw, hrest]
        | some r =>
          rw [writes_cons_of_some hw, writes_cons_of_some hw]
          by_cases hi : r.identity = i
          · simp only [if_pos hi, List.length_cons, hrest]
          · simp only [if_neg hi, hrest]
  rw [writes_append, rivals_append, List.length_append, hall]
  omega

/-- A record has another version than before only if a rival has written it. -/
theorem Chronicle.rivals_of_conflict (h : Chronicle past) (hs : Idle k earlier past)
    (hcur : recordAfter i earlier = some current) (hold : recordAfter i past = some old)
    (hv : old.version ≠ current.version) : rivals k i earlier + 1 ≤ rivals k i past := by
  have hbefore := (h.of_suffix hs.suffix).version_eq hcur
  have hafter := h.version_eq hold
  have hcount : (writes i past).length + rivals k i earlier =
      (writes i earlier).length + rivals k i past := hs.length_writes
  have hmono : rivals k i earlier ≤ rivals k i past := rivals_mono hs.suffix
  omega

/-- A task writes at most once. -/
theorem Chronicle.commits_le_one (h : Chronicle past) : commits k past ≤ 1 := by
  induction past with
  | nil => exact Nat.zero_le 1
  | cons o past ih =>
    by_cases ho : (o.task.number = k && o.written?.isSome) = true
    · obtain ⟨hk, hw⟩ : o.task.number = k ∧ o.written?.isSome = true := by simpa using ho
      subst hk
      -- whatever the task wrote before would be its last access still
      have hnone : commits o.task.number past = 0 := by
        refine List.countP_eq_zero.2 fun x hx hboth => ?_
        obtain ⟨hk, hsome⟩ : x.task.number = o.task.number ∧ x.written?.isSome = true := by
          simpa using hboth
        obtain ⟨new, hnew⟩ := Option.isSome_iff_exists.1 hw
        obtain ⟨wrote, hwrote⟩ := Option.isSome_iff_exists.1 hsome
        obtain ⟨later, before, rfl⟩ := List.append_of_mem hx
        have hlast := h.lastAccess_of_written ⟨o :: later, rfl⟩ hwrote
        rw [hk, lastAccess_cons_self (Occurrence.isAccess_of_written hnew)] at hlast
        have hlength := congrArg (fun pair => pair.2.length) (Option.some.inj hlast)
        simp at hlength
        omega
      have hone : commits o.task.number (o :: past) = commits o.task.number past + 1 :=
        List.countP_cons_of_pos ho
      omega
    · have hsame : commits k (o :: past) = commits k past := List.countP_cons_of_neg ho
      rw [hsame]
      exact ih h.tail

/-! ## What a change comes to -/

/-- The task has tried a change, and the change came to what it says of the record
that was stored when it was last looked at.  Nothing was written but the new
record, if there is one. -/
inductive Decided (task : Task) (i : Identity) (change : Change) (start past : List Occurrence) :
    Except ServiceError Record → Prop
  /-- There was no record. -/
  | missing {earlier : List Occurrence} (hs : Idle task.number start past)
      (hl : (.answered task (.lookup i) (.error (.notFound i)) :: earlier) <:+ past)
      (hr : recordAfter i earlier = none) : Decided task i change start past (.error (.notFound i))
  /-- The change failed. -/
  | refused {earlier : List Occurrence} {current : Record} {now : Moment} {e : ServiceError}
      (hs : Idle task.number start past)
      (hl : (.answered task (.lookup i) (.ok current) :: earlier) <:+ past)
      (hr : recordAfter i earlier = some current) (hch : change now current = .error e) :
      Decided task i change start past (.error e)
  /-- Nothing was to be changed. -/
  | skipped {earlier : List Occurrence} {current : Record} {now : Moment}
      (hs : Idle task.number start past)
      (hl : (.answered task (.lookup i) (.ok current) :: earlier) <:+ past)
      (hr : recordAfter i earlier = some current) (hch : change now current = .ok none) :
      Decided task i change start past (.ok current)
  /-- The record that was stored was replaced. -/
  | committed {earlier : List Occurrence} {current next : Record} {now : Moment}
      (hs : Idle task.number start earlier) (hr : recordAfter i earlier = some current)
      (hch : change now current = .ok (some next))
      (ho : ByOthers task.number (.answered task (.replace next current.version)
        (.ok { next with version := current.version + 1 }) :: earlier) past) :
      Decided task i change start past (.ok { next with version := current.version + 1 })

/-- What was decided in a later round was decided. -/
theorem Decided.of_idle {res : Except ServiceError Record} (h : Decided task i change mid past res)
    (hs : Idle task.number start mid) : Decided task i change start past res := by
  cases h with
  | missing hs' hl hr => exact .missing (hs.trans hs') hl hr
  | refused hs' hl hr hch => exact .refused (hs.trans hs') hl hr hch
  | skipped hs' hl hr hch => exact .skipped (hs.trans hs') hl hr hch
  | committed hs' hr hch ho => exact .committed (hs.trans hs') hr hch ho

/-- Between the first look of a task at a record and its last attempt to replace
it, others wrote the record so many times. -/
inductive Outpaced (task : Task) (i : Identity) (n : Nat) (start past : List Occurrence) : Prop
  /-- The look and the attempt. -/
  | between {first last : List Occurrence} {found : Except StoreError Record} {next : Record}
      {expected actual : Nat} (hfirst : ByOthers task.number start first)
      (hbetween : (.answered task (.lookup i) found :: first) <:+ last)
      (hlast : ByOthers task.number (.answered task (.replace next expected)
        (.error (.versionConflict expected actual)) :: last) past)
      (hn : rivals task.number i first + n ≤ rivals task.number i last)

/-- What outpaces a task happens while it tries. -/
theorem Outpaced.rivals_le (h : Outpaced task i n start past) :
    rivals task.number i start + n ≤ rivals task.number i past := by
  obtain ⟨hfirst, -, hlast, hn⟩ := h
  have hbefore : rivals task.number i start ≤ rivals task.number i _ := rivals_mono hfirst.suffix
  have hafter : rivals task.number i _ ≤ rivals task.number i past :=
    rivals_mono ((List.suffix_cons _ _).trans hlast.suffix)
  omega

/-! ## Trying a change -/

/-- The change keeps records those of their identity. -/
def Change.KeepsIdentity (change : Change) : Prop :=
  ∀ now r next, change now r = .ok (some next) → next.identity = r.identity

/-- How one try of a change went: it was decided, or it was lost to a rival and the
change goes on. -/
inductive Tried (task : Task) (i : Identity) (change : Change) (rounds : Nat)
    (start past : List Occurrence) (res : Except ServiceError Record) : Prop
  /-- It was decided. -/
  | decided (h : Decided task i change start past res)
  /-- It was lost. -/
  | lost {first last : List Occurrence} {found : Except StoreError Record} {next : Record}
      {expected actual : Nat} (hfirst : ByOthers task.number start first)
      (hbetween : (.answered task (.lookup i) found :: first) <:+ last)
      (hidle : Idle task.number start (.answered task (.replace next expected)
        (.error (.versionConflict expected actual)) :: last))
      (hrival : rivals task.number i first + 1 ≤ rivals task.number i last)
      (hrest : Follows task (reviseWithin i change rounds).run (.answered task
        (.replace next expected) (.error (.versionConflict expected actual)) :: last) past
        (.done res))

/-- A try that is over went one of these ways. -/
theorem Follows.tried {res : Except ServiceError Record}
    (h : Follows task (reviseWithin i change (rounds + 1)).run start past (.done res))
    (hc : Chronicle past) (hid : change.KeepsIdentity) :
    Tried task i change rounds start past res := by
  rw [reviseWithin_succ] at h
  rcases operation_step_cases h with ⟨⟨_, heq⟩, -⟩ | ⟨first, found, hfirst, hlooked⟩
  · cases heq
  have hread : Idle task.number first (.answered task (.lookup i) found :: first) :=
    (Since.refl first).cons fun _ => rfl
  have hstart : Idle task.number start first := Idle.of_byOthers hfirst
  rcases hc.told hlooked.suffix with ⟨hnone, rfl⟩ | ⟨current, hcur, rfl⟩
  · obtain ⟨heq, ho⟩ := hlooked.done_cases
    cases heq
    exact .decided (.missing (hstart.trans (hread.trans (Idle.of_byOthers ho))) ho.suffix hnone)
  rw [Operation.ofStore_ok, pure_bind] at hlooked
  rcases operation_step_cases hlooked with ⟨⟨_, heq⟩, -⟩ | ⟨timed, now, htimed, hnow⟩
  · cases heq
  have hclock : Idle task.number first (.answered task .clock now :: timed) :=
    (hread.trans (Idle.of_byOthers htimed)).cons fun _ => rfl
  have hlook : (.answered task (.lookup i) (.ok current) :: first) <:+
      .answered task .clock now :: timed := htimed.suffix.trans (List.suffix_cons _ _)
  cases hch : change now current with
  | error e =>
    rw [hch] at hnow
    obtain ⟨heq, ho⟩ := hnow.done_cases
    cases heq
    exact .decided (.refused (hstart.trans (hclock.trans (Idle.of_byOthers ho)))
      (hlook.trans ho.suffix) hcur hch)
  | ok decided =>
  rw [hch, Operation.ofExcept_ok, pure_bind] at hnow
  cases decided with
  | none =>
    obtain ⟨heq, ho⟩ := hnow.done_cases
    cases heq
    exact .decided (.skipped (hstart.trans (hclock.trans (Idle.of_byOthers ho)))
      (hlook.trans ho.suffix) hcur hch)
  | some next =>
  rcases operation_step_cases hnow with ⟨⟨_, heq⟩, -⟩ | ⟨last, put, hput, hend⟩
  · cases heq
  have hsame : Idle task.number first last := hclock.trans (Idle.of_byOthers hput)
  have hwait : Idle task.number start last := hstart.trans hsame
  have hbetween := hlook.trans hput.suffix
  have hlast := hc.of_suffix ((List.suffix_cons _ last).trans hend.suffix)
  have hnext : next.identity = i := (hid now current next hch).trans (identity_of_recordAfter hcur)
  rcases hc.told hend.suffix with ⟨hnone, -⟩ | ⟨old, hold, ⟨hv, rfl⟩ | ⟨hv, rfl⟩⟩
  · rw [hnext] at hnone
    have hsome : recordAfter i first ≠ none := by simp [hcur]
    exact absurd hnone (recordAfter_ne_none_mono hsame.suffix hsome)
  · obtain ⟨heq, ho⟩ := hend.done_cases
    cases heq
    rw [hnext] at hold
    have hmem : current ∈ writes i last :=
      writes_mono hsame.suffix (mem_writes_of_recordAfter hcur)
    obtain rfl : current = old := hlast.eq_of_version_eq hold hmem hv.symm
    exact .decided (.committed hwait hold hch ho)
  · rw [hnext] at hold
    exact .lost hfirst hbetween (hwait.cons fun _ => rfl)
      (hlast.rivals_of_conflict hsame hcur hold hv) hend

/-- A change that was tried so many times was decided, or it was outpaced as
often. -/
theorem Follows.reviseWithin_ends {res : Except ServiceError Record}
    (h : Follows task (reviseWithin i change (rounds + 1)).run start past (.done res))
    (hc : Chronicle past) (hid : change.KeepsIdentity) :
    Decided task i change start past res ∨
      res = .error (.storage (.contention i maxRounds)) ∧
        Outpaced task i (rounds + 1) start past := by
  induction rounds generalizing start with
  | zero =>
    cases h.tried hc hid with
    | decided h => exact .inl h
    | lost hfirst hbetween hidle hrival hrest =>
      obtain ⟨heq, ho⟩ := hrest.done_cases
      cases heq
      exact .inr ⟨rfl, .between hfirst hbetween ho hrival⟩
  | succ rounds ih =>
    cases h.tried hc hid with
    | decided h => exact .inl h
    | @lost first last _ _ _ _ hfirst hbetween hidle hrival hrest =>
      rcases ih hrest with hdecided | ⟨rfl, hout⟩
      · exact .inl (hdecided.of_idle hidle)
      · obtain ⟨hfirst', hbetween', hlast, hn⟩ := hout
        have hreach := (List.suffix_cons _ last).trans hfirst'.suffix
        have hmono : rivals task.number i last ≤ rivals task.number i _ := rivals_mono hreach
        exact .inr ⟨rfl, .between hfirst
          (hbetween.trans (hreach.trans ((List.suffix_cons _ _).trans hbetween'))) hlast (by omega)⟩

/-! ## How long a change is tried -/

/-- However it is answered, the plan ends after so many asks at most. -/
def Plan.EndsWithin {α : Type} : Plan α → Nat → Prop
  | .done _, _ => True
  | .step _ next, n => 0 < n ∧ ∀ reply, (next reply).EndsWithin (n - 1)

/-- A round asks for the record, the time and the replacement. -/
theorem endsWithin_reviseWithin (i : Identity) (change : Change) (rounds : Nat) :
    (reviseWithin i change rounds).run.EndsWithin (3 * rounds) := by
  induction rounds with
  | zero => exact trivial
  | succ rounds ih =>
    rw [reviseWithin_succ]
    refine ⟨Nat.succ_pos _, ?_⟩
    rintro (e | current)
    · exact trivial
    refine ⟨Nat.succ_pos _, fun now => ?_⟩
    have hdecided : ∀ decided, (reviseDecided i change rounds current decided).run.EndsWithin
        (3 * rounds + 1) := by
      rintro (- | next)
      · exact trivial
      refine ⟨Nat.succ_pos _, ?_⟩
      rintro (e | stored)
      · cases e with
        | versionConflict => exact ih
        | _ => exact trivial
      · exact trivial
    have hnow : (Operation.ofExcept id (change now current) >>=
        reviseDecided i change rounds current).run.EndsWithin (3 * rounds + 1) := by
      cases change now current with
      | error e => exact trivial
      | ok decided => exact hdecided decided
    exact hnow

/-- A task that follows a plan asks no more often than the plan does. -/
theorem Follows.asked_le {α : Type} {p rest : Plan α} (h : Follows task p start past rest)
    (hp : p.EndsWithin n) :
    ∃ more, past = more ++ start ∧ more.countP (·.task.number = task.number) ≤ n := by
  induction h generalizing n with
  | stays ho =>
    obtain ⟨more, rfl, hmore⟩ := ho
    have hnone : more.countP (·.task.number = task.number) = 0 :=
      List.countP_eq_zero.2 fun o ho hk => hmore o ho (by simpa using hk)
    exact ⟨more, rfl, by omega⟩
  | asks ho reply _ ih =>
    obtain ⟨hpos, hnext⟩ := hp
    obtain ⟨more, rfl, hmore⟩ := ih (hnext reply)
    obtain ⟨before, rfl, hbefore⟩ := ho
    have hnone : before.countP (·.task.number = task.number) = 0 :=
      List.countP_eq_zero.2 fun o ho hk => hbefore o ho (by simpa using hk)
    refine ⟨more ++ .answered task _ reply :: before, by simp, ?_⟩
    rw [List.countP_append, List.countP_cons_of_pos (by simp [Occurrence.task]), hnone]
    omega

/-! ## Calls that try changes -/

/-- The changes that a call tries, and the records that it tries them on. -/
inductive Service.Call.Tries : Service.Call → Identity → Change → Prop
  /-- A registration is made again. -/
  | update (i : Identity) (role : String) (payload : Payload) :
      Tries (.update i role payload) i (makeAgain role payload)
  /-- The answer to a challenge is kept with a record that the challenge is for. -/
  | answerChallenge {i : Identity} {keyId : Option String} (challenge answer : String)
      (hk : ∀ key, keyId = some key → key = i.keyId) :
      Tries (.answerChallenge i.subscriberId keyId challenge) i (keepAnswer answer)
  /-- A status is followed. -/
  | pushStatus (i : Identity) {text : String} {target : Status}
      (ht : Status.read? text = some target) :
      Tries (.pushStatus i text) i (follow (.pushed target))
  /-- The outcome of a round is recorded. -/
  | register (r : Record) (kind : RoundKind) {outcome : Except GiveUp Ack} {change : Change}
      (he : ending r outcome = .ok change) : Tries (.register r kind) r.identity change

/-- The call may come to try a change. -/
def Service.Call.changes : Service.Call → Bool
  | update .. | answerChallenge .. | pushStatus .. | register .. => true
  | _ => false

theorem acknowledge_eq_error {ack : Ack} (h : acknowledge ack now r = .error e) :
    ∃ v, e = .violation v := by
  unfold acknowledge at h
  cases hf : follow .accepted now r with
  | error e' =>
    rw [hf] at h
    cases h
    exact follow_eq_error hf
  | ok decided =>
    rw [hf] at h
    cases decided <;> cases h

/-- What calls try keeps records those of their identity. -/
theorem Service.Call.Tries.keepsIdentity {c : Service.Call} (h : c.Tries i change) :
    change.KeepsIdentity := by
  intro now r next hch
  cases h with
  | update =>
    obtain ⟨-, rfl⟩ := makeAgain_eq_some_iff.1 hch
    rfl
  | answerChallenge =>
    obtain ⟨-, -, rfl⟩ := keepAnswer_eq_some_iff.1 hch
    rfl
  | pushStatus =>
    obtain ⟨-, rfl⟩ := follow_eq_some_iff.1 hch
    rfl
  | register record _ he =>
    rename_i outcome
    rcases outcome with (_ | _) | _ <;> cases he <;> obtain ⟨-, hch⟩ := inRound_eq_some_iff.1 hch
    · obtain ⟨-, rfl⟩ := follow_eq_some_iff.1 hch
      rfl
    · obtain ⟨-, rfl⟩ := acknowledge_eq_some_iff.1 hch
      rfl

/-- What calls try fails only because the status does not permit it. -/
theorem Service.Call.Tries.violation {c : Service.Call} (h : c.Tries i change)
    (hch : change now r = .error e) : ∃ v, e = .violation v := by
  cases h with
  | update => exact makeAgain_eq_error hch
  | answerChallenge => exact keepAnswer_eq_error hch
  | pushStatus => exact follow_eq_error hch
  | register record _ he =>
    rename_i outcome
    rcases outcome with (_ | _) | _ <;> cases he <;> unfold inRound at hch <;> split at hch
    · exact follow_eq_error hch
    · cases hch
    · exact acknowledge_eq_error hch
    · cases hch

/-! ## Where calls give up -/

/-- The error gives up a change. -/
def ServiceError.isContention : ServiceError → Bool
  | storage (.contention ..) => true
  | _ => false

/-- However it is answered, the operation gives up no change. -/
abbrev Operation.Uncontended {α : Type} (x : Operation α) : Prop :=
  x.Asks (fun _ => True) fun res => ∀ e, res = .error e → e.isContention = false

namespace Operation.Uncontended

variable {α β : Type} {x : Operation α} {f : α → Operation β}

theorem pure (a : α) : (pure a : Operation α).Uncontended := by
  refine Operation.Asks.pure ?_
  intro e he
  cases he

theorem throw (h : e.isContention = false) : (throw e : Operation α).Uncontended := by
  refine Operation.Asks.throw ?_
  rintro _ ⟨⟩
  exact h

theorem bind (h : x.Uncontended) (hf : ∀ a, (f a).Uncontended) : (x >>= f).Uncontended :=
  Operation.Asks.bind h (fun a _ => hf a) fun e he e' heq => by
    cases heq
    exact he e rfl

theorem ask_bind {a : Ask} {f : a.Reply → Operation β} (hf : ∀ reply, (f reply).Uncontended) :
    (Operation.ask a >>= f).Uncontended := Operation.Asks.ask_bind trivial hf

theorem map {f : α → β} (h : x.Uncontended) : (f <$> x).Uncontended := by
  rw [map_eq_pure_bind]
  exact h.bind fun a => .pure (f a)

theorem ofExcept {ε : Type} {g : ε → ServiceError} {res : Except ε α}
    (hg : ∀ e, res = .error e → (g e).isContention = false) : (ofExcept g res).Uncontended := by
  cases res with
  | ok a => exact .pure a
  | error e => exact .throw (hg e rfl)

/-- What the store answers gives up no change. -/
theorem ofStore (res : Except StoreError α) : (ofStore res).Uncontended :=
  ofExcept fun e _ => by cases e <;> rfl

theorem adapt {g : ServiceError → ServiceError} (hg : ∀ e, (g e).isContention = false)
    (h : x.Asks (fun _ => True) fun _ => True) :
    Operation.Uncontended (α := α) (ExceptT.adapt g x) := by
  refine Operation.Asks.of_run (Plan.Asks.bind h.run fun res _ => ?_)
  rintro e he
  cases res with
  | ok a => cases he
  | error e' =>
    cases he
    exact hg e'

/-- A plan that cannot fail gives up no change. -/
theorem lift (p : Plan α) : (liftM p : Operation α).Uncontended := by
  have hasks : p.Asks (fun _ => True) fun _ => True := by
    induction p with
    | done a => exact trivial
    | step ask next ih => exact ⟨trivial, ih⟩
  refine Operation.Asks.of_run (Plan.Asks.bind hasks fun a _ => ?_)
  intro e he
  cases he

end Operation.Uncontended

open Operation (Uncontended)

theorem Keys.uncontended_publicKeys (keyId : String) : (Keys.publicKeys keyId).Uncontended := by
  refine Uncontended.map (.bind (.ask_bind fun atHand => ?_) fun found => ?_)
  · cases atHand with
    | some keys => exact .pure _
    | none =>
      refine .ask_bind fun stored => .bind (.ofStore stored) fun found => ?_
      cases found with
      | some keys => exact .map (.ask_bind fun _ => .pure keys)
      | none => exact .pure _
  · cases found with
    | some keys => exact .pure _
    | none => exact .throw rfl

theorem Challenge.uncontended_resolve (registryKey challenge keyId : String) :
    (Challenge.resolve registryKey challenge keyId).Uncontended := by
  unfold Challenge.resolve
  split
  · exact .throw rfl
  · have hopen : Uncontended (ExceptT.adapt asUnanswered
        (Keys.openFrom keyId challenge registryKey)) :=
      .adapt (fun e => by cases e <;> rfl)
        ((Keys.local_openFrom keyId challenge registryKey).mono (fun _ _ => trivial) fun _ h => h)
    refine .bind hopen fun answer => ?_
    by_cases hempty : answer = ""
    · simp only [hempty, if_true]
      exact .throw rfl
    · simp only [hempty, if_false]
      exact .pure _

theorem Service.uncontended_findTarget (subscriberId : String) (keyId : Option String) :
    (Service.findTarget subscriberId keyId).Uncontended := by
  cases keyId with
  | some keyId => exact .ask_bind fun found => .ofStore found
  | none =>
    refine .ask_bind fun found => .bind (.ofStore found) fun records => ?_
    split
    · exact .throw rfl
    · exact .pure _
    · exact .throw rfl

namespace Follows

variable {α β : Type} {x : Operation α} {f : α → Operation β}

/-- An operation that gives up no change has not given one up. -/
theorem not_contended (h : Follows task x.run start past (.done (.error e))) (hx : x.Uncontended)
    (he : e.isContention = true) : False := by
  obtain ⟨-, hend⟩ := h.since hx.run (fun _ => True) fun _ _ _ => trivial
  rw [hend e rfl] at he
  cases he

/-- If the first of two operations gives up no change, the second one does. -/
theorem contended_bind (h : Follows task (x >>= f).run start past (.done (.error e)))
    (hx : x.Uncontended) (he : e.isContention = true) :
    ∃ a mid, start <:+ mid ∧ Follows task x.run start mid (.done (.ok a)) ∧
      Follows task (f a).run mid past (.done (.error e)) := by
  rcases h.operation_bind_done with ⟨a, mid, hfirst, hsecond⟩ | ⟨e', hfirst, heq⟩
  · exact ⟨a, mid, hfirst.suffix, hfirst, hsecond⟩
  · cases heq
    exact (hfirst.not_contended hx he).elim

end Follows

/-- The task gave up a change that its call tries. -/
def Abandoned (task : Task) (past : List Occurrence) (e : ServiceError) : Prop :=
  ∃ i change start, task.call.Tries i change ∧
    Follows task (revise i change).run start past (.done (.error e))

namespace Service

variable {s : Service} {role subscriberId challenge status : String} {payload : Payload}
  {keyId : Option String} {kind : RoundKind} {before : List Occurrence}

theorem abandoned_update (hcall : task.call = .update i role payload)
    (h : Follows task (update i role payload).run start past (.done (.error e)))
    (he : e.isContention = true) : Abandoned task past e := by
  obtain ⟨-, _, -, -, h⟩ := h.contended_bind (.ofExcept fun _ _ => rfl) he
  obtain ⟨-, _, -, -, h⟩ := h.contended_bind (.ofExcept fun _ _ => rfl) he
  obtain ⟨found, _, -, -, h⟩ := h.contended_bind (.ask_bind fun reply => .pure reply) he
  obtain ⟨-, _, -, -, h⟩ := h.contended_bind (.ofStore found) he
  obtain ⟨-, mid, -, -, h⟩ := h.contended_bind (Keys.uncontended_publicKeys i.keyId) he
  rcases h.operation_bind_done with ⟨stored, _, -, hscheduled⟩ | ⟨e', hrevised, heq⟩
  · exact (hscheduled.not_contended (.ask_bind fun _ => .pure stored) he).elim
  · cases heq
    exact ⟨i, _, mid, hcall ▸ .update i role payload, hrevised⟩

theorem abandoned_pushStatus (hcall : task.call = .pushStatus i status)
    (h : Follows task (pushStatus i status).run start past (.done (.error e)))
    (he : e.isContention = true) : Abandoned task past e := by
  unfold pushStatus at h
  cases ht : Status.read? status with
  | none =>
    rw [ht] at h
    exact (h.not_contended (.throw rfl) he).elim
  | some target =>
    rw [ht] at h
    exact ⟨i, _, start, hcall ▸ .pushStatus i ht, h⟩

theorem abandoned_answerChallenge
    (hcall : task.call = .answerChallenge subscriberId keyId challenge) (hc : Chronicle past)
    (h : Follows task (task.service.answerChallenge subscriberId keyId challenge).run
      (.begun task :: before) past (.done (.error e)))
    (he : e.isContention = true) : Abandoned task past e := by
  cases answering_of_follows hc h with
  | astray hf => exact (hf.not_contended (uncontended_findTarget subscriberId keyId) he).elim
  | @found current mid _ _ _ ha _ hs hi _ =>
    have hpermit : (Operation.ofExcept id (permit current.status .challenged)).Uncontended := by
      refine .ofExcept fun e he => ?_
      obtain ⟨v, rfl⟩ := permit_eq_error he
      rfl
    obtain ⟨-, _, -, -, ha⟩ := ha.contended_bind hpermit he
    obtain ⟨answer, later, -, -, ha⟩ :=
      ha.contended_bind (Challenge.uncontended_resolve _ challenge _) he
    rcases ha.operation_bind_done with ⟨stored, _, -, hdone⟩ | ⟨e', hrevised, heq⟩
    · exact (hdone.not_contended (.pure answer) he).elim
    · cases heq
      subst hs
      exact ⟨⟨current.identity.subscriberId, current.identity.keyId⟩, _, later,
        hcall ▸ .answerChallenge challenge answer hi, hrevised⟩

theorem abandoned_register (hcall : task.call = .register r kind)
    (h : Follows task (s.register r kind).run start past (.done (.error e)))
    (he : e.isContention = true) : Abandoned task past e := by
  obtain ⟨keys, _, -, -, h⟩ := h.contended_bind (Keys.uncontended_publicKeys r.identity.keyId) he
  obtain ⟨messageId, _, -, -, h⟩ := h.contended_bind (.ask_bind fun reply => .pure reply) he
  obtain ⟨outcome, mid, -, -, h⟩ := h.contended_bind (.lift _) he
  cases hend : ending r outcome with
  | error noAnswer =>
    rcases outcome with (_ | _) | _ <;> cases hend
    exact (h.not_contended (.throw rfl) he).elim
  | ok change =>
    rw [conclude_of_ending hend] at h
    exact ⟨r.identity, change, mid, hcall ▸ .register r kind hend, h⟩

end Service

/-- A call that changes records and has given up has given up a change. -/
theorem Course.abandoned (h : Course task past (.done (.error e))) (hc : Chronicle past)
    (hch : task.call.changes = true) (he : e.isContention = true) : Abandoned task past e := by
  obtain ⟨before, hf⟩ := h.follows
  obtain ⟨number, process, s, c⟩ := task
  cases c with
  | update => exact Service.abandoned_update rfl hf he
  | answerChallenge => exact Service.abandoned_answerChallenge rfl hc hf he
  | pushStatus => exact Service.abandoned_pushStatus rfl hf he
  | register => exact Service.abandoned_register rfl hf he
  | create | get | readiness | resume => cases hch

/-! ## Runs -/

namespace World

variable {w : World}

/-- **A change is given up only if it was outpaced.**  In every run, a call that
tries a change comes to what the change says of the stored record, or others wrote
that record sixteen times between the first look and the last attempt; with fewer
writes of others the change is decided.  A change is over after sixteen rounds of
three asks at most, a call gives up no other change than one that it tried, and it
writes at most once. -/
theorem Reachable.contention (h : w.Reachable) :
    (∀ task i change start res, task.call.Tries i change →
      Follows task (revise i change).run start w.past (.done res) →
        (Decided task i change start w.past res ∨
          res = .error (.storage (.contention i maxRounds)) ∧
            Outpaced task i maxRounds start w.past) ∧
        (rivals task.number i w.past < rivals task.number i start + maxRounds →
          Decided task i change start w.past res)) ∧
    (∀ task i change start rest, Follows task (revise i change).run start w.past rest →
      ∃ more, w.past = more ++ start ∧
        more.countP (·.task.number = task.number) ≤ 3 * maxRounds) ∧
    (∀ task i n, task.call.changes = true →
      (⟨task, .done (.error (.storage (.contention i n)))⟩ : Running) ∈ w.running →
        n = maxRounds ∧ ∃ change start, task.call.Tries i change ∧
          Follows task (revise i change).run start w.past
            (.done (.error (.storage (.contention i maxRounds)))) ∧
          Outpaced task i maxRounds start w.past) ∧
    ∀ k, commits k w.past ≤ 1 := by
  have hchron := h.sound.chronicle
  have hends {task : Task} {i : Identity} {change : Change} {start : List Occurrence}
      {res : Except ServiceError Record} (ht : task.call.Tries i change)
      (hf : Follows task (revise i change).run start w.past (.done res)) :=
    hf.reviseWithin_ends hchron ht.keepsIdentity
  refine ⟨fun task i change start res ht hf => ⟨hends ht hf, fun hfew => ?_⟩,
    fun task i change start rest hf => hf.asked_le (endsWithin_reviseWithin i change maxRounds),
    fun task i n hch hd => ?_, fun k => hchron.commits_le_one⟩
  · rcases hends ht hf with hdecided | ⟨-, hout⟩
    · exact hdecided
    · exact absurd hout.rivals_le (Nat.not_le.2 hfew)
  · obtain ⟨j, change, start, ht, hf⟩ := (h.course hd).abandoned hchron hch rfl
    rcases hends ht hf with hdecided | ⟨heq, hout⟩
    · -- a change of a call fails in another way
      cases hdecided with
      | refused _ _ _ hfail =>
        obtain ⟨v, hv⟩ := ht.violation hfail
        cases hv
    · cases heq
      exact ⟨rfl, change, start, ht, hf, hout⟩

/-- The call of number 2 looks at a registration that was refused.  Before it
replaces the record, another call makes the registration again and starts a round,
which is refused too. -/
def outpacing (n : Nat) : List Move :=
  List.replicate 2 (.answer 2 .sample) ++
    [.call 0 (.update sampleIdentity "BAP" (.plain "https://host" "domain"))] ++
    List.replicate 5 (.answer (3 + 2 * n) .sample) ++ [.answer 2 .sample] ++
    [.answer (3 + 2 * n) .sample] ++ List.replicate 8 (.answer (4 + 2 * n) .refused)

/-- This happens sixteen times. -/
def outpaced : World := empty.play
  ([.restart .sample, .call 0 (.create sampleIdentity "BAP" (.plain "https://host" "domain"))] ++
    List.replicate 8 (.answer 0 .sample) ++ List.replicate 6 (.answer 1 .refused) ++
    [.call 0 (.update sampleIdentity "BPP" (.plain "https://host" "domain"))] ++
    List.replicate 2 (.answer 2 .sample) ++ (List.range maxRounds).flatMap outpacing)

/-- The task has given up to make the registration again. -/
def hasGivenUp (running : Running) : Bool :=
  match running with
  | ⟨⟨_, _, _, .update ..⟩, .done (.error (.storage (.contention i n)))⟩ =>
    i = sampleIdentity && n = maxRounds
  | _ => false

/-- Then the call gives up. -/
theorem contention_outpaced : ∃ (w : World) (task : Task), w.Reachable ∧
    (⟨task, .done (.error (.storage (.contention sampleIdentity maxRounds)))⟩ : Running) ∈
      w.running ∧
    ∃ change start, task.call.Tries sampleIdentity change ∧
      Outpaced task sampleIdentity maxRounds start w.past := by
  have hreach : outpaced.Reachable := leads_play _ _
  have hgiven : (outpaced.running[2]?).map hasGivenUp = some true := by decide +kernel
  obtain ⟨running, hrunning, hup⟩ := Option.map_eq_some_iff.1 hgiven
  have hmem := List.mem_of_getElem? hrunning
  unfold hasGivenUp at hup
  split at hup
  · rename_i number process s j role payload i n
    obtain ⟨rfl, rfl⟩ : i = sampleIdentity ∧ n = maxRounds := by simpa using hup
    obtain ⟨-, change, start, htries, -, hout⟩ := hreach.contention.2.2.1 _ _ _ rfl hmem
    exact ⟨outpaced, _, hreach, hmem, change, start, htries, hout⟩
  · cases hup

end World

end Enrolment
