import Enrolment.Proofs.Alone
import Enrolment.Proofs.Reachable

/-!
# Turns

A call that ran together with others may have run alone, in a turn, at the moment
of its last access: what it came to is the verdict on the record that was stored
just then.  The turn of a call is found there, from how the call ended, or, if it
has not ended yet, from what it wrote.

## Main definitions

* `Turn`, `Turn.Alone` — a call that runs alone.
* `Turn.Tells` — the turn is what an occurrence came to.
* `GaveUp` — the result of a call that was tried too often, or that the registry
  did not answer.

## Main statements

* `Commit.verdict` — a write is the verdict of its call.
* `World.Sound.turn_of_lastAccess` — what the last access of a call came to.
* `World.Sound.uncommitted_of_error` — a call that fails wrote nothing.
-/

namespace Enrolment

/-- The call challenges without naming a key. -/
def Service.Call.isKeyless : Service.Call → Bool
  | answerChallenge _ none _ => true
  | _ => false

/-- A call that runs alone. -/
structure Turn where
  /-- The task of the call. -/
  task : Task
  /-- What the registry told the call, if it is a round. -/
  outcome : Option (Except GiveUp Ack)
  /-- What it draws. -/
  draws : Draws
  /-- What it ends with. -/
  result : Except ServiceError task.call.Result

namespace Turn

/-- The task of the turn has ended. -/
def ended (t : Turn) : Running := ⟨t.task, .done t.result⟩

/-- The call runs alone in a store and leaves the other store. -/
def Alone (t : Turn) (s s' : Store) : Prop :=
  (t.task.call.decided t.task.service t.outcome).Alone t.draws s t.result s'

/-- The last access of a task is the occurrence, and the turn is the verdict of
the call on what was stored just then.  What it draws for a key is what the key
has. -/
structure Tells (t : Turn) (past : List Occurrence) (o : Occurrence)
    (earlier : List Occurrence) : Prop where
  /-- The occurrence is one of the task. -/
  task : o.task = t.task
  /-- It is a part of what the call does. -/
  part : o.isPart = true
  /-- It is the last access of the task. -/
  last : lastAccess t.task.number past = some (o, earlier)
  /-- The registry said what the turn tells. -/
  heard : ∀ said, t.outcome = some said → Reported t.task past said
  /-- The call came to its verdict. -/
  verdict : ∃ i, t.task.call.subject? = some i ∧
    t.task.call.verdict t.task.service t.outcome t.draws.now (recordAfter i earlier)
      (keysAfter i.keyId earlier) = some ⟨t.result, o.written?⟩ ∧
    ∀ keys, keysAfter i.keyId past = some keys → t.draws.keys = keys

end Turn

/-- The result of a call that was tried too often, or of a round that the
registry did not answer. -/
def GaveUp {α : Type} : Except ServiceError α → Prop
  | .error (.storage (.contention _ _)) | .error (.noAnswer _) => True
  | _ => False

variable {task : Task} {past earlier : List Occurrence} {o : Occurrence} {new old next : Record}

/-! ## Writes and verdicts -/

theorem Change.verdict_of_some {i : Identity} {change : Change} {now : Moment}
    (h : change now old = .ok (some next)) :
    change.verdict i now (some old) = .writes { next with version := old.version + 1 } := by
  rw [Change.verdict, Verdict.given_some, h, Verdict.after_ok]

/-- A change of a stored record is the verdict of the call that made it. -/
theorem Revision.verdict (h : Revision task past old next) (hk : task.call.isKeyless = false)
    {c : Service.Call} (hc : task.call = c) (keys : Option Keyset)
    (hkeys : ∀ k, keysAfter old.identity.keyId past = some k → keys = some k) :
    c.subject? = some old.identity ∧ ∃ outcome now,
      (∀ said, outcome = some said → Reported task past said) ∧
        (c.verdict task.service outcome now (some old) keys).map Verdict.written =
          some (some { next with version := old.version + 1 }) := by
  cases h with
  | @remade role payload now hc' hr hp he =>
    obtain rfl := hc.symm.trans hc'
    refine ⟨rfl, none, now, nofun, ?_⟩
    simp only [Service.Call.verdict, Verdict.update, hr, hp, Verdict.after_ok]
    rw [Change.verdict_of_some (makeAgain_eq_some_iff.2 ⟨he, rfl⟩)]
    rfl
  | @challenged keyId challenge answer ks now hc' hi hks ho hn he =>
    obtain rfl := hc.symm.trans hc'
    cases keyId with
    | none =>
      rw [hc'] at hk
      cases hk
    | some k =>
      obtain rfl := hi k rfl
      refine ⟨rfl, none, now, nofun, ?_⟩
      simp only [Service.Call.verdict]
      rw [Verdict.answerChallenge_of_answered ho fun _ => hkeys ks hks,
        Change.verdict_of_some (keepAnswer_eq_some_iff.2 ⟨he, hn, rfl⟩)]
      rfl
  | @pushed text target now hc' ht he =>
    obtain rfl := hc.symm.trans hc'
    refine ⟨rfl, none, now, nofun, ?_⟩
    simp only [Service.Call.verdict, Verdict.pushStatus, ht, Verdict.given_some]
    rw [Change.verdict_of_some (follow_eq_some_iff.2 ⟨he, rfl⟩)]
    rfl
  | @accepted r kind request authorization ack now hc' hi hv ha he =>
    obtain rfl := hc.symm.trans hc'
    have hin : old.mayBeIn r.version = true := by simp [Record.mayBeIn, hv]
    refine ⟨congrArg some hi, some (.ok ack), now, ?_, ?_⟩
    · intro said hsaid
      cases hsaid
      exact ⟨request, authorization, ha⟩
    · simp only [Service.Call.verdict, Option.map_some, Verdict.conclude, ending, Verdict.after_ok]
      rw [Change.verdict_of_some
        (inRound_eq_some_iff.2 ⟨hin, acknowledge_eq_some_iff.2 ⟨he, rfl⟩⟩)]
      rfl
  | @rejected r kind request authorization e now hc' hi hv hd ha he =>
    obtain rfl := hc.symm.trans hc'
    have hin : old.mayBeIn r.version = true := by simp [Record.mayBeIn, hv]
    refine ⟨congrArg some hi, some (.error (.definitive e)), now, ?_, ?_⟩
    · intro said hsaid
      cases hsaid
      exact ⟨hd, request, authorization, ha⟩
    · simp only [Service.Call.verdict, Option.map_some, Verdict.conclude, ending, Verdict.after_ok]
      rw [Change.verdict_of_some (inRound_eq_some_iff.2 ⟨hin, follow_eq_some_iff.2 ⟨he, rfl⟩⟩)]
      rfl

/-- A write is the verdict of its call. -/
theorem Commit.verdict (h : Commit task past new) (hk : task.call.isKeyless = false)
    {c : Service.Call} (hc : task.call = c) : c.subject? = some new.identity ∧
      ∃ outcome now, (∀ said, outcome = some said → Reported task past said) ∧
        (c.verdict task.service outcome now (recordAfter new.identity past)
          (keysAfter new.identity.keyId past)).map Verdict.written = some (some new) := by
  cases h with
  | @made r role payload now hc' hm _ hn =>
    obtain rfl := hc.symm.trans hc'
    refine ⟨rfl, none, now, nofun, ?_⟩
    simp only [Service.Call.verdict, Verdict.create, hm, hn, Verdict.after_ok]
    rfl
  | @revised old next ho hr =>
    have hverdict := hr.verdict hk hc (keysAfter old.identity.keyId past) fun _ => id
    rw [← ho, ← hr.identity_eq] at hverdict
    exact hverdict

/-! ## What the last access tells -/

theorem Occurrence.isPart_of_written (h : o.written? ≠ none) : o.isPart = true := by
  obtain ⟨new, hw⟩ := Option.ne_none_iff_exists'.1 h
  have ha : o.isAccess = true := Occurrence.isAccess_of_written hw
  cases o with
  | begun task => cases hw
  | answered task ask reply => exact Occurrence.isPart_answered reply ha

/-- A verdict that the last access told is that of a turn. -/
private theorem exists_tells {i : Identity}
    {outcome : Option (Except GiveUp Ack)} {now : Moment}
    {res : Except ServiceError o.task.call.Result}
    (hl : lastAccess o.task.number past = some (o, earlier)) (hp : o.isPart = true)
    (hi : o.task.call.subject? = some i)
    (hr : ∀ said, outcome = some said → Reported o.task past said)
    (hv : o.task.call.verdict o.task.service outcome now (recordAfter i earlier)
      (keysAfter i.keyId earlier) = some ⟨res, o.written?⟩) :
    ∃ draws, (⟨o.task, outcome, draws, res⟩ : Turn).Tells past o earlier := by
  refine ⟨⟨now, (keysAfter i.keyId past).getD ⟨[], []⟩, "", 0, .ok ⟨"", ""⟩⟩, rfl, hp, hl, hr, i,
    hi, hv, ?_⟩
  intro keys hkeys
  rw [hkeys]
  rfl

namespace World.Sound

variable {w : World}

/-- A task that has ended has one result. -/
theorem result_unique (h : w.Sound) {a b : Except ServiceError task.call.Result}
    (ha : ⟨task, .done a⟩ ∈ w.running) (hb : ⟨task, .done b⟩ ∈ w.running) : a = b := by
  have heq := h.eq_of_number_eq ha hb rfl
  simpa using heq

/-- What the last access of a call came to: there is a turn that tells it, which
is how the call ended, or how it will; otherwise nothing was written, and the
call gave up or has not ended, or names no record. -/
theorem turn_of_lastAccess (h : w.Sound)
    (hl : lastAccess o.task.number w.past = some (o, earlier))
    (hk : o.task.call.isKeyless = false) :
    (∃ t : Turn, t.Tells w.past o earlier ∧
      (∀ res, ⟨o.task, .done res⟩ ∈ w.running → t.ended = ⟨o.task, .done res⟩) ∧
      (t.ended ∈ w.running ∨ o.written? ≠ none)) ∨
    (o.written? = none ∧ ∀ res, ⟨o.task, .done res⟩ ∈ w.running →
      o.task.call.subject? = none ∨ GaveUp res) := by
  by_cases hd : ∃ res, ⟨o.task, .done res⟩ ∈ w.running
  · obtain ⟨res, hres⟩ := hd
    have hended : Ended o.task w.past res := h.upheld _ hres
    cases hended with
    | @told _ _ i outcome now _ ha hp hi hr hv =>
      obtain ⟨rfl, rfl⟩ := Prod.mk.inj (Option.some.inj (ha.symm.trans hl))
      obtain ⟨draws, ht⟩ := exists_tells hl hp hi hr hv
      exact .inl ⟨_, ht, fun res' hres' => by rw [h.result_unique hres' hres]; rfl, .inl hres⟩
    | lost hu =>
      refine .inr ⟨hu o earlier hl, fun res' hres' => .inr ?_⟩
      obtain rfl := h.result_unique hres' hres
      exact trivial
    | unanswered hu =>
      refine .inr ⟨hu o earlier hl, fun res' hres' => .inr ?_⟩
      obtain rfl := h.result_unique hres' hres
      exact trivial
    | unnamed hi =>
      refine .inr ⟨?_, fun _ _ => .inl hi⟩
      by_contra hw
      obtain ⟨new, hw⟩ := Option.ne_none_iff_exists'.1 hw
      have hcom := h.chronicle.commit_of_suffix (lastAccess_suffix hl) hw
      rw [(hcom.verdict hk rfl).1] at hi
      cases hi
  · cases hw : o.written? with
    | none => exact .inr ⟨rfl, fun res hres => absurd ⟨res, hres⟩ hd⟩
    | some new =>
      have hsuffix : (o :: earlier) <:+ w.past := lastAccess_suffix hl
      have hcom : Commit o.task earlier new := h.chronicle.commit_of_suffix hsuffix hw
      obtain ⟨hi, outcome, now, hr, hv⟩ := hcom.verdict hk rfl
      obtain ⟨v, hv, hwrites⟩ := Option.map_eq_some_iff.1 hv
      have hv' : o.task.call.verdict o.task.service outcome now
          (recordAfter new.identity earlier) (keysAfter new.identity.keyId earlier) =
            some ⟨v.result, o.written?⟩ := by
        rw [hw, ← hwrites, hv]
      obtain ⟨draws, ht⟩ := exists_tells hl (Occurrence.isPart_of_written (by simp [hw])) hi
        (fun said hsaid => (hr said hsaid).mono ((List.suffix_cons o earlier).trans hsuffix)) hv'
      exact .inl ⟨_, ht, fun res hres => absurd ⟨res, hres⟩ hd, .inr (by simp)⟩

/-- A task that has written nothing by its last access has written nothing. -/
theorem written?_eq_none_of_uncommitted (h : w.Sound) (hu : Uncommitted o.task.number w.past)
    (ho : o ∈ w.past) : o.written? = none := by
  by_contra hw
  obtain ⟨new, hw⟩ := Option.ne_none_iff_exists'.1 hw
  obtain ⟨later, earlier, heq⟩ := List.append_of_mem ho
  have hsuffix : (o :: earlier) <:+ w.past := ⟨later, heq.symm⟩
  have hlast := h.chronicle.lastAccess_of_written hsuffix hw
  rw [hu o earlier hlast] at hw
  cases hw

/-- A call that fails wrote nothing. -/
theorem uncommitted_of_error (h : w.Sound) {e : ServiceError}
    (he : ⟨task, .done (.error e)⟩ ∈ w.running) (hs : task.call.subject? ≠ none)
    (ho : o ∈ w.past) (ht : o.task = task) : o.written? = none := by
  have hended : Ended task w.past (.error e) := h.upheld _ he
  have hu : Uncommitted task.number w.past := by
    cases hended with
    | told outcome now ha hp hi hr hv =>
      intro o' earlier' ho'
      obtain ⟨rfl, rfl⟩ := Prod.mk.inj (Option.some.inj (ha.symm.trans ho'))
      exact Service.Call.clean_verdict hv e rfl
    | lost hu | unanswered hu => exact hu
    | unnamed hi => exact absurd hi hs
  subst ht
  exact h.written?_eq_none_of_uncommitted hu ho

end World.Sound

end Enrolment
