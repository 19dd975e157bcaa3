import Enrolment.Proofs.Asks
import Enrolment.Proofs.Reachable
import Enrolment.Proofs.Schedule

/-!
# Stretches

A task waits for what it asks for, and meanwhile anything may happen to the others.
Rounds alone are not waited for: a task that has stored a record starts its round in
the same stretch, before it waits for anything again.

A stretch of the world is a step and the rounds that are started with it.  It ends
when no task is about to start one, and every step can be the first one of a
stretch, so a run in stretches leaves out nothing but the worlds in between.

## Main definitions

* `World.AtRest` — no task is about to start a round.
* `World.Start` — a task starts a round.
* `World.Stretch` — a step, and the rounds that are started with it.
* `World.Stretches`, `World.Unbroken` — runs in stretches, and the worlds that such
  a run from an empty store leads to.

## Main statements

* `World.Unbroken.reachable`, `World.Unbroken.atRest` — runs in stretches are runs,
  and lead to worlds at rest.
* `World.AtRest.exists_stretch` — a step can be the first one of a stretch.
* `World.stretches_play`, `World.unbroken_play` — moves are stretches, if rounds are
  started at once.
-/

namespace Enrolment

/-- What the plan does next is to start a round. -/
def Plan.isStarting {α : Type} : Plan α → Bool
  | step ask _ => ask.starts
  | done _ => false

/-- A call has something else to do before it starts a round. -/
theorem Service.Call.isStarting_operation (s : Service) (c : Service.Call) :
    (c.operation s).run.isStarting = false := by
  cases c with
  | create | get | readiness | resume | register => rfl
  | update i role payload =>
    change (Service.update i role payload).run.isStarting = false
    unfold Service.update
    cases checkRole role with
    | error e => rfl
    | ok _ => cases payload.check <;> rfl
  | answerChallenge subscriberId keyId challenge => cases keyId <;> rfl
  | pushStatus i status =>
    change (Service.pushStatus i status).run.isStarting = false
    unfold Service.pushStatus
    cases Status.read? status with
    | none => rfl
    | some target =>
      dsimp only
      unfold revise maxRounds reviseWithin
      rfl

namespace World

variable {w mid w' : World}

/-! ## Worlds at rest -/

/-- No task is about to start a round. -/
def AtRest (w : World) : Prop := ∀ running ∈ w.running, running.rest.isStarting = false

/-- A task starts a round. -/
inductive Start : World → World → Prop
  /-- Nothing has to be answered for that. -/
  | mk {w : World} {task : Task} {r : Record} {kind : RoundKind}
      {next : Unit → Plan (Except ServiceError task.call.Result)}
      (hr : w.running[task.number]? = some ⟨task, .step (.schedule r kind) next⟩) :
      Start w ((w.answer task (.schedule r kind) () (next ()) w.surroundings).spawn task
        (.schedule r kind))

/-- A step, and the rounds that are started with it. -/
structure Stretch (w w' : World) : Prop where
  /-- The step comes first. -/
  starts : ∃ mid, w.Step mid ∧ Relation.ReflTransGen Start mid w'
  /-- No round is left to be started. -/
  rest : w'.AtRest

/-- A run leads from one world to the other in stretches. -/
def Stretches : World → World → Prop := Relation.ReflTransGen Stretch

/-- A run from an empty store leads to the world in stretches. -/
def Unbroken (w : World) : Prop := Stretches empty w

theorem Start.step (h : w.Start w') : w.Step w' := by
  cases h with
  | mk hr => exact .answer hr rfl

theorem Stretches.leads (h : w.Stretches w') : w.Leads w' := by
  induction h with
  | refl => exact .refl
  | tail _ hstretch ih =>
    obtain ⟨⟨mid, hs, hstarts⟩, -⟩ := hstretch
    exact (ih.tail hs).trans (Relation.ReflTransGen.mono (fun _ _ => Start.step) _ _ hstarts)

theorem Stretches.atRest (h : w.Stretches w') (hw : w.AtRest) : w'.AtRest := by
  cases h with
  | refl => exact hw
  | tail _ hstretch => exact hstretch.rest

/-- A run in stretches is a run. -/
theorem Unbroken.reachable (h : w.Unbroken) : w.Reachable := h.leads

/-- No stretch ends before its rounds are started. -/
theorem Unbroken.atRest (h : w.Unbroken) : w.AtRest := Stretches.atRest h (by simp [AtRest, empty])

/-! ## Steps begin stretches -/

/-- After a call there is the new task, and there are the others. -/
theorem getElem?_begin {p k : Nat} {s : Service} {c : Service.Call} {running : Running}
    (hk : (w.begin p s c).running[k]? = some running) :
    w.running[k]? = some running ∨ running = ⟨w.nextTask p s c, (w.nextTask p s c).plan⟩ := by
  rcases Nat.lt_or_ge k w.running.length with hlt | hge
  · exact .inl ((List.getElem?_append_left hlt).symm.trans hk)
  · exact .inr (List.mem_singleton.1 (List.mem_of_getElem?
      ((List.getElem?_append_right hge).symm.trans hk)))

theorem getElem?_begin_of_some {p k : Nat} {s : Service} {c : Service.Call} {running : Running}
    (hk : w.running[k]? = some running) : (w.begin p s c).running[k]? = some running := by
  obtain ⟨hlt, -⟩ := List.getElem?_eq_some_iff.1 hk
  exact (List.getElem?_append_left hlt).trans hk

/-- A call starts no rounds when it begins. -/
theorem AtRest.begin (h : w.AtRest) (p : Nat) (s : Service) (c : Service.Call) :
    (w.begin p s c).AtRest := by
  intro running hmem
  obtain ⟨k, hk⟩ := List.getElem?_of_mem hmem
  rcases getElem?_begin hk with hk | rfl
  · exact h running (List.mem_of_getElem? hk)
  · exact Service.Call.isStarting_operation s c

section OnlyTask

variable {task : Task} {rest : Plan (Except ServiceError task.call.Result)}

/-- No task but this one is about to start a round. -/
def OnlyStarts (w : World) (task : Task) : Prop :=
  ∀ (k : Nat) (running : Running), task.number ≠ k → w.running[k]? = some running →
    running.rest.isStarting = false

theorem OnlyStarts.atRest (h : w.OnlyStarts task) (hr : w.running[task.number]? = some ⟨task, rest⟩)
    (hrest : rest.isStarting = false) : w.AtRest := by
  intro running hmem
  obtain ⟨k, hk⟩ := List.getElem?_of_mem hmem
  by_cases hn : task.number = k
  · subst hn
    obtain rfl := Option.some.inj (hr.symm.trans hk)
    exact hrest
  · exact h k running hn hk

theorem OnlyStarts.answer (h : w.OnlyStarts task) (ask : Ask) (reply : ask.Reply)
    (s : Surroundings) : (w.answer task ask reply rest s).OnlyStarts task := by
  intro k running hn hk
  rcases getElem?_answer hk with ⟨heq, -⟩ | ⟨-, hk⟩
  · exact absurd heq hn
  · exact h k running hn hk

theorem OnlyStarts.begin (h : w.OnlyStarts task) (p : Nat) (s : Service) (c : Service.Call) :
    (w.begin p s c).OnlyStarts task := by
  intro k running hn hk
  rcases getElem?_begin hk with hk | rfl
  · exact h k running hn hk
  · exact Service.Call.isStarting_operation s c

/-- The only task that is about to start rounds starts all that it is to start. -/
theorem OnlyStarts.exists_atRest (h : w.OnlyStarts task)
    (hr : w.running[task.number]? = some ⟨task, rest⟩) :
    ∃ w', Relation.ReflTransGen Start w w' ∧ w'.AtRest := by
  induction rest generalizing w with
  | done res => exact ⟨w, .refl, h.atRest hr rfl⟩
  | step ask next ih =>
    cases ask with
    | schedule r kind =>
      have hlt : task.number < w.running.length := (List.getElem?_eq_some_iff.1 hr).1
      let started := w.answer task (.schedule r kind) () (next ()) w.surroundings
      have hanswered : started.OnlyStarts task := h.answer (.schedule r kind) () w.surroundings
      have hnow : started.running[task.number]? = some ⟨task, next ()⟩ :=
        List.getElem?_set_self hlt
      obtain ⟨w', hstarts, hrest⟩ := ih () (hanswered.begin task.process task.service
        (.register r kind)) (getElem?_begin_of_some hnow)
      exact ⟨w', .head (.mk hr) hstarts, hrest⟩
    | _ => exact ⟨w, .refl, h.atRest hr rfl⟩

end OnlyTask

/-- Every step can be the first one of a stretch. -/
theorem AtRest.exists_stretch (h : w.AtRest) (hs : w.Step mid) :
    ∃ w', Relation.ReflTransGen Start mid w' ∧ w.Stretch w' := by
  obtain ⟨w', hstarts, hrest⟩ : ∃ w', Relation.ReflTransGen Start mid w' ∧ w'.AtRest := by
    cases hs with
    | call _ _ => exact ⟨_, .refl, h.begin _ _ _⟩
    | restart s => exact ⟨_, .refl, h⟩
    | @answer task ask next reply s hr ha =>
      have hask : ask.starts = false := h _ (List.mem_of_getElem? hr)
      have hothers : w.OnlyStarts task :=
        fun k running _ hk => h running (List.mem_of_getElem? hk)
      have hnow : (w.answer task ask reply (next reply) s).running[task.number]? =
          some ⟨task, next reply⟩ :=
        List.getElem?_set_self (List.getElem?_eq_some_iff.1 hr).1
      cases ask with
      | schedule => cases hask
      | _ => exact (hothers.answer _ reply s).exists_atRest hnow
  exact ⟨w', hstarts, ⟨mid, hs, hstarts⟩, hrest⟩

/-! ## Moves that start rounds at once -/

instance (w : World) : Decidable w.AtRest :=
  inferInstanceAs (Decidable (∀ running ∈ w.running, running.rest.isStarting = false))

/-- The move lets a task start a round. -/
def letsStart (w : World) : Move → Bool
  | .answer k _ => (w.running[k]?).any (·.rest.isStarting)
  | _ => false

/-- Moves do nothing else while a task is about to start a round. -/
def startsAtOnce : World → List Move → Bool
  | w, [] => w.AtRest
  | w, m :: moves => (w.AtRest || w.letsStart m) && (w.next m).startsAtOnce moves

theorem start_of_move {m : Move} (h : w.letsStart m = true) (hm : w.move m = some w') :
    w.Start w' := by
  cases m with
  | answer k d =>
    obtain ⟨⟨task, rest⟩, hk, hstarting⟩ := (Option.any_eq_true _ _).1 h
    simp only [move, hk] at hm
    cases rest with
    | done => cases hm
    | step ask next =>
      dsimp only at hm
      split at hm
      · rename_i hn
        subst hn
        obtain rfl := Option.some.inj hm
        cases ask with
        | schedule r kind => exact .mk hk
        | _ => cases hstarting
      · cases hm
  | call | restart => cases h

/-- The world is at the end of a stretch, or in the middle of one. -/
def Underway (w w' : World) : Prop :=
  ∃ v, w.Stretches v ∧ (v = w' ∨ ∃ mid, v.Step mid ∧ Relation.ReflTransGen Start mid w')

theorem Underway.stretches (h : w.Underway w') (hrest : w'.AtRest) : w.Stretches w' := by
  obtain ⟨v, hv, rfl | hstarts⟩ := h
  · exact hv
  · exact hv.tail ⟨hstarts, hrest⟩

/-- Moves that start rounds at once are stretches. -/
theorem stretches_play {moves : List Move} (h : w'.startsAtOnce moves = true)
    (hw : w.Underway w') : w.Stretches (w'.play moves) := by
  induction moves generalizing w' with
  | nil => exact hw.stretches (of_decide_eq_true h)
  | cons m moves ih =>
    obtain ⟨hm, hmoves⟩ := (Bool.and_eq_true _ _).mp h
    refine ih hmoves ?_
    cases hnext : w'.move m with
    | none => rwa [World.next, hnext]
    | some last =>
      rw [World.next, hnext, Option.getD_some]
      rcases (Bool.or_eq_true _ _).mp hm with hrest | hstarts
      · exact ⟨w', hw.stretches (of_decide_eq_true hrest), .inr ⟨last, step_of_move hnext, .refl⟩⟩
      · have hstart := start_of_move hstarts hnext
        obtain ⟨v, hv, rfl | ⟨mid, hs, hmid⟩⟩ := hw
        · exact ⟨v, hv, .inr ⟨last, hstart.step, .refl⟩⟩
        · exact ⟨v, hv, .inr ⟨mid, hs, hmid.tail hstart⟩⟩

theorem unbroken_play {moves : List Move} (h : empty.startsAtOnce moves = true) :
    (empty.play moves).Unbroken :=
  stretches_play h ⟨empty, .refl, .inl rfl⟩

end World

end Enrolment
