import Enrolment.Proofs.Conduct.Calls

/-!
# Runs leave chronicles

Every call upholds what the others rely on, whatever they do in between.  So by
induction on the steps, whatever runs leave behind is a chronicle, the store is
as it left it, and a call that ended did so as its last access tells.

## Main definitions

* `World.Sound` — what every step keeps.

## Main statements

* `World.Step.sound` — every step keeps it.
* `World.Reachable.sound` — so it holds wherever a run from an empty store
  leads.
* `World.Leads.past` — what has happened stays.
-/

namespace Enrolment.World

variable {w w' : World} {task : Task}

/-- What every step keeps. -/
structure Sound (w : World) : Prop where
  /-- The store is as what happened left it. -/
  agree : w.surroundings.Agree w.past
  /-- What happened is a chronicle. -/
  chronicle : Chronicle w.past
  /-- Tasks are numbered in the order in which they were called. -/
  numbered : ∀ (k : Nat) (running : Running), w.running[k]? = some running →
    running.task.number = k
  /-- Everything happened to a task that was called. -/
  known : ∀ o ∈ w.past, o.task ∈ w.running.map Running.task
  /-- What is left of a task upholds what the others rely on. -/
  upheld : ∀ running ∈ w.running, running.rest.Upholds running.task Proper
    (fun res later => Ended running.task later res) w.past

theorem sound_empty : Sound empty where
  agree := Surroundings.agree_empty
  chronicle := .nil
  numbered := by simp [empty]
  known := by simp [empty]
  upheld := by simp [empty]

/-- A record of the store is the one that was written last. -/
theorem Sound.get?_eq (h : w.Sound) (i : Identity) : w.store.get? i = recordAfter i w.past :=
  h.agree.records i

/-- A task is told by its number. -/
theorem Sound.eq_of_number_eq (h : w.Sound) {a b : Running} (ha : a ∈ w.running)
    (hb : b ∈ w.running) (hn : a.task.number = b.task.number) : a = b := by
  obtain ⟨k, hk⟩ := List.getElem?_of_mem ha
  obtain ⟨l, hl⟩ := List.getElem?_of_mem hb
  have hkl : k = l := by rw [← h.numbered k a hk, ← h.numbered l b hl, hn]
  exact Option.some.inj (hk.symm.trans (hkl ▸ hl))

theorem Sound.task_eq_of_number_eq (h : w.Sound) {o o' : Occurrence} (ho : o ∈ w.past)
    (ho' : o' ∈ w.past) (hn : o.task.number = o'.task.number) : o.task = o'.task := by
  obtain ⟨a, ha, hat⟩ := List.mem_map.1 (h.known o ho)
  obtain ⟨b, hb, hbt⟩ := List.mem_map.1 (h.known o' ho')
  have hab : a = b := h.eq_of_number_eq ha hb (by rw [hat, hbt, hn])
  rw [← hat, ← hbt, hab]

/-- Tasks have numbers below that of the next one. -/
theorem Sound.number_lt (h : w.Sound) {running : Running} (hr : running ∈ w.running) :
    running.task.number < w.running.length := by
  obtain ⟨k, hk⟩ := List.getElem?_of_mem hr
  rw [h.numbered k running hk]
  exact (List.getElem?_eq_some_iff.1 hk).1

/-- What has happened so far happened to tasks with such numbers. -/
theorem Sound.number_lt_of_past (h : w.Sound) {o : Occurrence} (ho : o ∈ w.past) :
    o.task.number < w.running.length := by
  obtain ⟨running, hr, htask⟩ := List.mem_map.1 (h.known o ho)
  rw [← htask]
  exact h.number_lt hr

/-- Other tasks are left alone by what happens to one. -/
private theorem upholds_cons {running : Running} {o : Occurrence} {past : List Occurrence}
    (h : running.rest.Upholds running.task Proper
      (fun res later => Ended running.task later res) past)
    (ho : o.task.number ≠ running.task.number) :
    running.rest.Upholds running.task Proper
      (fun res later => Ended running.task later res) (o :: past) := by
  have hothers : ByOthers running.task.number past (o :: past) := (Since.refl past).cons ho
  exact h.of_byOthers hothers fun res hres => hres.quiet hothers.quiet

/-! ## Steps -/

/-- A new call keeps everything. -/
theorem Sound.begin (h : w.Sound) (p : Nat) (s : Service) {c : Service.Call}
    (hc : Admits w.past c) : (w.begin p s c).Sound := by
  have hchron : Chronicle (w.begin p s c).past := by
    refine .begun h.chronicle hc ?_
    intro o ho
    exact Nat.ne_of_lt (h.number_lt_of_past ho)
  refine ⟨h.agree.kept rfl fun _ => rfl, hchron, ?_, ?_, ?_⟩
  · intro k running hk
    simp only [World.begin, List.getElem?_append] at hk
    split at hk
    · exact h.numbered k running hk
    · rename_i hlt
      obtain ⟨hk0, rfl⟩ := List.getElem?_eq_some_iff.1 hk
      simp only [List.length_singleton] at hk0
      simp only [List.getElem_singleton, nextTask]
      omega
  · intro o ho
    rcases List.mem_cons.1 ho with rfl | ho
    · simp [World.begin, Occurrence.task]
    · simpa [World.begin] using Or.inl (List.mem_map.1 (h.known o ho))
  · intro running hr
    rcases List.mem_append.1 hr with hr | hr
    · exact upholds_cons (h.upheld running hr) (Nat.ne_of_gt (h.number_lt hr))
    · obtain rfl := List.mem_singleton.1 hr
      refine Operation.Upholds.run (Service.Call.upholds_operation rfl hchron
        (lastAccess_cons_self (o := .begun (w.nextTask p s c)) rfl) ?_)
      cases c with
      | register => exact hc
      | _ => exact trivial

/-- An answer leaves the tasks what they are. -/
private theorem tasks_answer {ask : Ask}
    {next : ask.Reply → Plan (Except ServiceError task.call.Result)} (reply : ask.Reply)
    {s : Surroundings}
    (hr : w.running[task.number]? = some ⟨task, .step ask next⟩) :
    (w.answer task ask reply (next reply) s).running.map Running.task =
      w.running.map Running.task := by
  apply List.ext_getElem?
  intro k
  by_cases hk : task.number = k
  · subst hk
    obtain ⟨hlt, heq⟩ := List.getElem?_eq_some_iff.1 hr
    simp [World.answer, hlt, heq]
  · simp [World.answer, hk]

/-- After an answer there is the task that goes on, and there are the others. -/
theorem getElem?_answer {ask : Ask} {reply : ask.Reply}
    {rest : Plan (Except ServiceError task.call.Result)} {s : Surroundings} {k : Nat}
    {running : Running} (hk : (w.answer task ask reply rest s).running[k]? = some running) :
    (task.number = k ∧ running = ⟨task, rest⟩) ∨
      (task.number ≠ k ∧ w.running[k]? = some running) := by
  simp only [World.answer, List.getElem?_set] at hk
  split at hk
  · rename_i hn
    split at hk
    · exact .inl ⟨hn, (Option.some.inj hk).symm⟩
    · cases hk
  · rename_i hn
    exact .inr ⟨hn, hk⟩

/-- An answer keeps everything. -/
theorem Sound.answer (h : w.Sound) {ask : Ask}
    {next : ask.Reply → Plan (Except ServiceError task.call.Result)} {reply : ask.Reply}
    {s : Surroundings} (hr : w.running[task.number]? = some ⟨task, .step ask next⟩)
    (ha : w.surroundings.Answers task.process ask reply s) :
    Conduct task w.past ask ∧ (w.answer task ask reply (next reply) s).Sound := by
  have htrue : TrueAfter w.past ask reply := h.agree.trueAfter ha
  obtain ⟨hconduct, hnext⟩ := h.upheld _ (List.mem_of_getElem? hr) w.past (.refl _) h.chronicle
    reply htrue
  refine ⟨hconduct, ?_, .answered h.chronicle hconduct htrue, ?_, ?_, ?_⟩
  · refine h.agree.answered task ha ?_
    intro keyId keys hask
    subst hask
    exact hconduct
  · intro k running hk
    rcases getElem?_answer hk with ⟨hn, rfl⟩ | ⟨-, hk⟩
    · exact hn
    · exact h.numbered k running hk
  · intro o ho
    rw [tasks_answer reply hr]
    rcases List.mem_cons.1 ho with rfl | ho
    · exact List.mem_map.2 ⟨_, List.mem_of_getElem? hr, rfl⟩
    · exact h.known o ho
  · intro running hmem
    obtain ⟨k, hk⟩ := List.getElem?_of_mem hmem
    rcases getElem?_answer hk with ⟨-, rfl⟩ | ⟨hn, hk⟩
    · exact hnext
    · refine upholds_cons (h.upheld running (List.mem_of_getElem? hk)) ?_
      exact h.numbered k running hk ▸ hn

/-- A round that is started keeps everything. -/
theorem Sound.spawn (h : w.Sound) {ask : Ask}
    (hc : ∀ r kind, ask = .schedule r kind → r ∈ written w.past) : (w.spawn task ask).Sound := by
  cases ask with
  | schedule r kind => exact h.begin task.process task.service (hc r kind rfl)
  | _ => exact h

/-- Every step keeps everything. -/
theorem Step.sound (hs : w.Step w') (h : w.Sound) : w'.Sound := by
  cases hs with
  | call _ hc => exact h.begin _ _ hc
  | @answer _ ask next reply s hr ha =>
    obtain ⟨hconduct, hsound⟩ := h.answer hr ha
    apply hsound.spawn
    intro r kind hask
    subst hask
    exact written_mono (List.suffix_cons _ w.past) hconduct
  | restart s =>
    refine ⟨⟨h.agree.records, h.agree.keys, ?_⟩, h.chronicle,
      h.numbered, h.known, h.upheld⟩
    intro process hp keyId keys hl
    rcases List.mem_append.1 hp with hp | hp
    · exact h.agree.atHand process hp keyId keys hl
    · obtain rfl := List.mem_singleton.1 hp
      cases hl

/-! ## Runs -/

theorem Leads.sound (hl : w.Leads w') (h : w.Sound) : w'.Sound := by
  induction hl with
  | refl => exact h
  | tail _ hs ih => exact hs.sound ih

/-- Whatever a run from an empty store leads to is sound. -/
theorem Reachable.sound (h : w.Reachable) : w.Sound := Leads.sound h sound_empty

/-- What a step adds to what has happened. -/
theorem Step.past (hs : w.Step w') : w'.past = w.past ∨ (∃ o, w'.past = o :: w.past) ∨
    ∃ task r kind reply, ∃ begun : Task,
      w'.past = .begun begun :: .answered task (.schedule r kind) reply :: w.past := by
  cases hs with
  | call _ _ => exact .inr (.inl ⟨_, rfl⟩)
  | @answer task ask next reply s hr ha =>
    cases ask with
    | schedule r kind => exact .inr (.inr ⟨task, r, kind, reply, _, rfl⟩)
    | _ => exact .inr (.inl ⟨_, rfl⟩)
  | restart s => exact .inl rfl

/-- What has happened stays. -/
theorem Leads.past (hl : w.Leads w') : w.past <:+ w'.past := by
  induction hl with
  | refl => exact List.suffix_rfl
  | tail _ hs ih =>
    rcases hs.past with heq | ⟨o, heq⟩ | ⟨_, _, _, _, _, heq⟩
    · exact heq ▸ ih
    · exact heq ▸ ih.trans (List.suffix_cons o _)
    · exact heq ▸ ih.trans ((List.suffix_cons _ _).trans (List.suffix_cons _ _))

end Enrolment.World
