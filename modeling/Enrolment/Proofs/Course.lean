import Enrolment.Proofs.Asks
import Enrolment.Proofs.Reachable

/-!
# How far tasks have come

What happened to a task is a way through its plan: it began, it was answered one
ask after another, and what is left of the plan is what comes after these
answers.  So whatever the plan of every call upholds or asks for holds of what
has happened.

## Main definitions

* `Course` — what has happened, and what is left of the plan of a task.

## Main statements

* `World.Reachable.course` — every task in a run is on its course.
* `Course.upholds` — what the plan of a task guarantees was met so far.
* `Course.asks`, `Course.settles` — what the task has asked for.
-/

namespace Enrolment

/-- What has happened leaves the rest of the plan of a task. -/
inductive Course (task : Task) :
    List Occurrence → Plan (Except ServiceError task.call.Result) → Prop
  /-- Nothing happened to it since it began. -/
  | begun (past : List Occurrence) : Course task (.begun task :: past) task.plan
  /-- It was answered. -/
  | answered {past : List Occurrence} {ask : Ask}
      {next : ask.Reply → Plan (Except ServiceError task.call.Result)}
      (h : Course task past (.step ask next)) (reply : ask.Reply) :
      Course task (.answered task ask reply :: past) (next reply)
  /-- Something happened to another task. -/
  | others {past : List Occurrence} {o : Occurrence}
      {rest : Plan (Except ServiceError task.call.Result)} (h : Course task past rest)
      (ho : o.task.number ≠ task.number) : Course task (o :: past) rest

/-! ## Runs -/

namespace World

variable {w w' : World}

/-- Every task is on its course. -/
def OnCourse (w : World) : Prop :=
  ∀ running ∈ w.running, Course running.task w.past running.rest

/-- A new call begins its course, and the others stay on theirs. -/
theorem OnCourse.begin (h : w.OnCourse) (hs : w.Sound) (p : Nat) (s : Service)
    (c : Service.Call) : (w.begin p s c).OnCourse := by
  intro running hr
  rcases List.mem_append.1 hr with hr | hr
  · exact (h running hr).others (Nat.ne_of_gt (hs.number_lt hr))
  · obtain rfl := List.mem_singleton.1 hr
    exact .begun w.past

/-- Every step keeps the tasks on their courses. -/
theorem Step.onCourse (hstep : w.Step w') (hs : w.Sound) (h : w.OnCourse) : w'.OnCourse := by
  cases hstep with
  | call _ _ => exact h.begin hs _ _ _
  | @answer task ask next reply s hr ha =>
    have hanswered : (w.answer task ask reply (next reply) s).OnCourse := by
      intro running hmem
      obtain ⟨k, hk⟩ := List.getElem?_of_mem hmem
      rcases getElem?_answer hk with ⟨-, rfl⟩ | ⟨hn, hk⟩
      · exact (h _ (List.mem_of_getElem? hr)).answered reply
      · refine (h running (List.mem_of_getElem? hk)).others ?_
        rw [hs.numbered k running hk]
        exact hn
    cases ask with
    | schedule r kind => exact hanswered.begin (hs.answer hr ha).2 _ _ _
    | _ => exact hanswered
  | restart s => exact h

theorem Leads.onCourse (hl : w.Leads w') (hs : w.Sound) (h : w.OnCourse) : w'.OnCourse := by
  induction hl with
  | refl => exact h
  | tail hl hstep ih => exact hstep.onCourse (Leads.sound hl hs) ih

/-- Every task in a run is on its course. -/
theorem Reachable.course (h : w.Reachable) {running : Running} (hr : running ∈ w.running) :
    Course running.task w.past running.rest :=
  Leads.onCourse h sound_empty (fun _ he => nomatch he) running hr

end World

/-! ## What has happened on a course -/

namespace Course

variable {task : Task} {past : List Occurrence}
  {rest : Plan (Except ServiceError task.call.Result)}

/-- A course began once. -/
theorem exists_begun (h : Course task past rest) :
    ∃ before, (.begun task :: before) <:+ past := by
  induction h with
  | begun past => exact ⟨past, List.suffix_rfl⟩
  | answered _ _ ih | others _ _ ih =>
    obtain ⟨before, hb⟩ := ih
    exact ⟨before, hb.trans (List.suffix_cons _ _)⟩

/-- A call that was made may be made. -/
theorem admits (hc : Chronicle (.begun task :: past)) :
    World.Admits (.begun task :: past) task.call := by
  cases hc with
  | begun _ ha _ =>
    generalize task.call = c at ha ⊢
    cases c with
    | register r kind => exact written_mono (List.suffix_cons _ past) ha
    | _ => exact trivial

/-- A guarantee that the plan of a task upholds was met so far, and what is left
of the plan upholds it still. -/
theorem upholds {G : Guarantee}
    {Q : Except ServiceError task.call.Result → List Occurrence → Prop}
    (h : Course task past rest) (hc : Chronicle past)
    (hplan : ∀ before, (.begun task :: before) <:+ past →
      task.plan.Upholds task G Q (.begun task :: before))
    (hQ : ∀ res o past, o.task.number ≠ task.number → Q res past → Q res (o :: past)) :
    rest.Upholds task G Q past ∧ ∀ ask reply earlier,
      (.answered task ask reply :: earlier) <:+ past → G (.answered task ask reply) earlier := by
  induction h with
  | begun past =>
    refine ⟨hplan past List.suffix_rfl, ?_⟩
    intro ask reply earlier hs
    cases hc with
    | begun _ _ hf =>
      rcases List.suffix_cons_iff.1 hs with heq | hs
      · cases heq
      · exact absurd rfl (hf _ (hs.subset List.mem_cons_self))
  | @answered past ask next h reply ih =>
    obtain ⟨hrest, hmet⟩ := ih hc.tail fun before hs =>
      hplan before (hs.trans (List.suffix_cons _ _))
    cases hc with
    | answered hc' _ ht =>
      obtain ⟨hg, hnext⟩ := hrest past (.refl past) hc' reply ht
      refine ⟨hnext, ?_⟩
      intro ask' reply' earlier hs
      rcases List.suffix_cons_iff.1 hs with heq | hs
      · cases heq
        exact hg
      · exact hmet ask' reply' earlier hs
  | @others past o rest h ho ih =>
    obtain ⟨hrest, hmet⟩ := ih hc.tail fun before hs =>
      hplan before (hs.trans (List.suffix_cons _ _))
    have hothers : ByOthers task.number past (o :: past) := (Since.refl past).cons ho
    refine ⟨hrest.of_byOthers hothers fun res => hQ res o past ho, ?_⟩
    intro ask reply earlier hs
    rcases List.suffix_cons_iff.1 hs with heq | hs
    · cases heq
      exact absurd rfl ho
    · exact hmet ask reply earlier hs

/-- What was answered to a task was answered just now or before. -/
theorem mem_cases {I : Ask → Prop} {o : Occurrence}
    (h : ∀ ask reply, .answered task ask reply ∈ past → I ask)
    (ho : o.task.number = task.number → ∃ ask reply, o = .answered task ask reply ∧ I ask) :
    ∀ ask reply, .answered task ask reply ∈ o :: past → I ask := by
  intro ask reply hmem
  rcases List.mem_cons.1 hmem with rfl | hmem
  · obtain ⟨ask', reply', heq, hI⟩ := ho rfl
    cases heq
    exact hI
  · exact h ask reply hmem

/-- A new call was answered nothing yet. -/
theorem not_mem_of_begun (hc : Chronicle (.begun task :: past)) (ask : Ask) (reply : ask.Reply) :
    .answered task ask reply ∉ .begun task :: past := by
  intro hmem
  cases hc with
  | begun _ _ hf =>
    rcases List.mem_cons.1 hmem with heq | hmem
    · cases heq
    · exact hf _ hmem rfl

/-- A task asks only for what its plan asks for. -/
theorem asks {P : Ask → Prop} {R : Except ServiceError task.call.Result → Prop}
    (h : Course task past rest) (hc : Chronicle past) (hplan : task.plan.Asks P R) :
    rest.Asks P R ∧ ∀ ask reply, .answered task ask reply ∈ past → P ask := by
  induction h with
  | begun past =>
    exact ⟨hplan, fun ask reply hmem => absurd hmem (not_mem_of_begun hc ask reply)⟩
  | @answered past ask next h reply ih =>
    obtain ⟨hrest, hmem⟩ := ih hc.tail
    exact ⟨hrest.2 reply, mem_cases hmem fun _ => ⟨ask, reply, rfl, hrest.1⟩⟩
  | others h ho ih =>
    obtain ⟨hrest, hmem⟩ := ih hc.tail
    exact ⟨hrest, mem_cases hmem fun heq => absurd heq ho⟩

/-- A task whose plan settles has asked locally so far, or it has started rounds
and ends well. -/
theorem settles (h : Course task past rest) (hc : Chronicle past) (hplan : task.plan.Settles) :
    (rest.Settles ∧ ∀ ask reply, .answered task ask reply ∈ past → ask.isLocal = true) ∨
      rest.Asks (·.starts = true) (·.isOk = true) := by
  induction h with
  | begun past =>
    exact .inl ⟨hplan, fun ask reply hmem => absurd hmem (not_mem_of_begun hc ask reply)⟩
  | @answered past ask next h reply ih =>
    rcases ih hc.tail with ⟨⟨hlocal, hnext⟩ | ⟨-, hnext⟩, hmem⟩ | hrest
    · exact .inl ⟨hnext reply, mem_cases hmem fun _ => ⟨ask, reply, rfl, hlocal⟩⟩
    · exact .inr (hnext reply)
    · exact .inr (hrest.2 reply)
  | others h ho ih =>
    rcases ih hc.tail with ⟨hrest, hmem⟩ | hrest
    · exact .inl ⟨hrest, mem_cases hmem fun heq => absurd heq ho⟩
    · exact .inr hrest

end Course

end Enrolment
