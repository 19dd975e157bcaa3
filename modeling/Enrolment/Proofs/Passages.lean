import Enrolment.Proofs.Failures

/-!
# Passages

Where a task stands tells which way it came.  What is left of a plan is reached
through some answers, one at a time, so the plan can be taken apart along its
parts: the task is still in the first part, or it has left it with a result and
is in what comes next.

On the way a run passes through many worlds.  For whatever happened there is one
that it led to just then.

## Main definitions

* `Follows` — what is left of a plan that a task has followed for a while.
* `World.Amid` — a world in which something has just happened to a task.

## Main statements

* `Follows.bind_cases`, `Follows.operation_bind_cases` — how far a task has come
  in a sequence.
* `Follows.upholds`, `Follows.since` — what the plan promised, and what the task
  asked for.
* `Course.follows` — every task follows its plan since it began.
* `World.Reachable.begun_before` — nothing happens to a task before it begins.
* `World.Reachable.exists_amid` — the world that something just happened in.
-/

namespace Enrolment

variable {α β : Type} {task : Task} {start mid past : List Occurrence} {o : Occurrence}
  {p rest : Plan α} {f : α → Plan β}

/-! ## Following a plan -/

/-- From one past to another the task has followed a plan, of which the rest is
left. -/
inductive Follows (task : Task) : Plan α → List Occurrence → List Occurrence → Plan α → Prop
  /-- It was not answered any more. -/
  | stays {p : Plan α} {start past : List Occurrence} (h : ByOthers task.number start past) :
      Follows task p start past p
  /-- It was answered, and went on. -/
  | asks {ask : Ask} {next : ask.Reply → Plan α} {start mid past : List Occurrence} {rest : Plan α}
      (h : ByOthers task.number start mid) (reply : ask.Reply)
      (hn : Follows task (next reply) (.answered task ask reply :: mid) past rest) :
      Follows task (.step ask next) start past rest

namespace Follows

theorem suffix (h : Follows task p start past rest) : start <:+ past := by
  induction h with
  | stays h => exact h.suffix
  | asks h reply _ ih => exact h.suffix.trans ((List.suffix_cons _ _).trans ih)

/-- What happens to others leaves a task where it is. -/
theorem others (h : Follows task p start past rest) (ho : o.task.number ≠ task.number) :
    Follows task p start (o :: past) rest := by
  induction h with
  | stays h => exact .stays (h.cons ho)
  | asks h reply _ ih => exact .asks h reply ih

theorem of_byOthers (h : Follows task p start mid rest) (ho : ByOthers task.number mid past) :
    Follows task p start past rest := by
  obtain ⟨more, rfl, hmore⟩ := ho
  induction more with
  | nil => exact h
  | cons o more ih =>
    exact (ih fun x hx => hmore x (List.mem_cons_of_mem o hx)).others
      fun hn => hmore o List.mem_cons_self hn

/-- An answer moves a task on. -/
theorem answered {ask : Ask} {next : ask.Reply → Plan α}
    (h : Follows task p start past (.step ask next)) (reply : ask.Reply) :
    Follows task p start (.answered task ask reply :: past) (next reply) := by
  generalize hrest : Plan.step ask next = rest at h
  induction h with
  | stays h =>
    subst hrest
    exact .asks h reply (.stays (.refl _))
  | asks h reply' _ ih => exact .asks h reply' (ih hrest)

/-- A plan that has ended is over. -/
theorem done_cases {a : α} (h : Follows task (.done a) start past rest) :
    rest = .done a ∧ ByOthers task.number start past := by
  cases h with
  | stays h => exact ⟨rfl, h⟩

/-- A task that asks waits for the answer, or it has gone on with it. -/
theorem step_cases {ask : Ask} {next : ask.Reply → Plan α}
    (h : Follows task (.step ask next) start past rest) :
    (rest = .step ask next ∧ ByOthers task.number start past) ∨
      ∃ mid reply, ByOthers task.number start mid ∧
        Follows task (next reply) (.answered task ask reply :: mid) past rest := by
  cases h with
  | stays h => exact .inl ⟨rfl, h⟩
  | asks h reply hn => exact .inr ⟨_, reply, h, hn⟩

theorem operation_step_cases {ask : Ask} {f : ask.Reply → Operation β}
    {rest : Plan (Except ServiceError β)}
    (h : Follows task (Operation.ask ask >>= f).run start past rest) :
    ((∃ next, rest = .step ask next) ∧ ByOthers task.number start past) ∨
      ∃ mid reply, ByOthers task.number start mid ∧
        Follows task (f reply).run (.answered task ask reply :: mid) past rest := by
  rcases step_cases h with ⟨rfl, ho⟩ | hn
  · exact .inl ⟨⟨_, rfl⟩, ho⟩
  · exact .inr hn

/-- What happened to a task since it was asking begins with the answer. -/
theorem reached_cases {ask : Ask} {next : ask.Reply → Plan α} {e : List Occurrence}
    (h : Follows task (.step ask next) start past rest) (ho : (o :: e) <:+ past)
    (hk : o.task.number = task.number) (hs : start <:+ e) :
    ∃ mid reply, Follows task (next reply) (.answered task ask reply :: mid) past rest ∧
      (o = .answered task ask reply ∧ e = mid ∨ (.answered task ask reply :: mid) <:+ e) := by
  rcases h.step_cases with ⟨-, hothers⟩ | ⟨mid, reply, hothers, hn⟩
  · exact (hothers.not_acting ho hk hs).elim
  · refine ⟨mid, reply, hn, ?_⟩
    rcases List.suffix_or_suffix_of_suffix ho hn.suffix with hin | hin
    · rcases List.suffix_cons_iff.1 hin with heq | hin
      · exact .inl (List.cons.inj heq)
      · exact (hothers.not_acting hin hk hs).elim
    · rcases List.suffix_cons_iff.1 hin with heq | hin
      · exact .inl (List.cons.inj heq.symm)
      · exact .inr hin

theorem operation_reached_cases {ask : Ask} {f : ask.Reply → Operation β} {e : List Occurrence}
    {rest : Plan (Except ServiceError β)}
    (h : Follows task (Operation.ask ask >>= f).run start past rest) (ho : (o :: e) <:+ past)
    (hk : o.task.number = task.number) (hs : start <:+ e) :
    ∃ mid reply, Follows task (f reply).run (.answered task ask reply :: mid) past rest ∧
      (o = .answered task ask reply ∧ e = mid ∨ (.answered task ask reply :: mid) <:+ e) :=
  reached_cases h ho hk hs

/-- Nothing has happened to a task since its plan was over. -/
theorem done_not_acting {a : α} {e : List Occurrence} (h : Follows task (.done a) start past rest)
    (ho : (o :: e) <:+ past) (hk : o.task.number = task.number) (hs : start <:+ e) : False :=
  h.done_cases.2.not_acting ho hk hs

/-- In a sequence a task is still in the first part, or it has left it. -/
theorem bind_cases {rest : Plan β} (h : Follows task (p >>= f) start past rest) :
    (∃ ask next, Follows task p start past (.step ask next) ∧
      rest = .step ask fun reply => next reply >>= f) ∨
      ∃ a mid, Follows task p start mid (.done a) ∧ Follows task (f a) mid past rest := by
  induction p generalizing start with
  | done a => exact .inr ⟨a, start, .stays (.refl start), h⟩
  | step ask next ih =>
    rcases h.step_cases with ⟨rfl, ho⟩ | ⟨mid, reply, ho, hn⟩
    · exact .inl ⟨ask, next, .stays ho, rfl⟩
    · rcases ih reply hn with ⟨ask', next', hf, rfl⟩ | ⟨a, mid', hf, hn'⟩
      · exact .inl ⟨ask', next', .asks ho reply hf, rfl⟩
      · exact .inr ⟨a, mid', .asks ho reply hf, hn'⟩

/-- In a sequence of operations a task is still in the first one, or it has gone
on with its result, or its error has ended both. -/
theorem operation_bind_cases {x : Operation α} {f : α → Operation β}
    {rest : Plan (Except ServiceError β)} (h : Follows task (x >>= f).run start past rest) :
    (∃ ask next, Follows task x.run start past (.step ask next) ∧
      rest = .step ask fun reply => next reply >>= ExceptT.bindCont f) ∨
      (∃ a mid, Follows task x.run start mid (.done (.ok a)) ∧
        Follows task (f a).run mid past rest) ∨
      ∃ e, Follows task x.run start past (.done (.error e)) ∧ rest = .done (.error e) := by
  rcases bind_cases (p := x.run) h with hx | ⟨(e | a), mid, hx, hn⟩
  · exact .inl hx
  · obtain ⟨rfl, ho⟩ := done_cases hn
    exact .inr (.inr ⟨e, hx.of_byOthers ho, rfl⟩)
  · exact .inr (.inl ⟨a, mid, hx, hn⟩)

/-- Two operations are over with the result of the second one, or with the error
of the first one. -/
theorem operation_bind_done {x : Operation α} {f : α → Operation β} {res : Except ServiceError β}
    (h : Follows task (x >>= f).run start past (.done res)) :
    (∃ a mid, Follows task x.run start mid (.done (.ok a)) ∧
      Follows task (f a).run mid past (.done res)) ∨
      ∃ e, Follows task x.run start past (.done (.error e)) ∧ res = .error e := by
  rcases operation_bind_cases h with ⟨ask, next, -, heq⟩ | hnext | ⟨e, hx, heq⟩
  · cases heq
  · exact .inl hnext
  · exact .inr ⟨e, hx, Plan.done.inj heq⟩

/-- What the plan promised is still promised, or kept if the plan has ended. -/
theorem upholds {G : Guarantee} {Q : α → List Occurrence → Prop}
    (h : Follows task p start past rest) (hc : Chronicle past) (hp : p.Upholds task G Q start)
    (hQ : ∀ a earlier later, ByOthers task.number earlier later → Q a earlier → Q a later) :
    rest.Upholds task G Q past := by
  induction h with
  | stays ho => exact hp.of_byOthers ho fun a => hQ a _ _ ho
  | @asks ask next start mid past rest ho reply hn ih =>
    cases hc.of_suffix hn.suffix with
    | answered hmid _ ht => exact ih hc (hp mid ho hmid reply ht).2

/-- A task that keeps to what is allowed has left nothing else behind, and keeps
to it. -/
theorem since {P : Ask → Prop} {R : α → Prop} (h : Follows task p start past rest)
    (ha : p.Asks P R) (own : Occurrence → Prop)
    (hown : ∀ ask reply, P ask → own (.answered task ask reply)) :
    Since task.number own start past ∧ rest.Asks P R := by
  induction h with
  | stays ho => exact ⟨ho.mono fun _ => False.elim, ha⟩
  | @asks ask next start mid past rest ho reply hn ih =>
    obtain ⟨hs, hrest⟩ := ih (ha.2 reply)
    have hfirst : Since task.number own start (.answered task ask reply :: mid) :=
      (ho.mono fun _ => False.elim).cons fun _ => hown ask reply ha.1
    exact ⟨hfirst.trans hs, hrest⟩

end Follows

/-- A task begins once, before it is answered. -/
theorem Chronicle.begun_first (h : Chronicle past) {before earlier : List Occurrence} {asked : Task}
    {ask : Ask} {reply : ask.Reply} (hb : (.begun task :: before) <:+ past)
    (hs : (.answered asked ask reply :: earlier) <:+ past) (hn : asked.number = task.number) :
    (.begun task :: before) <:+ earlier := by
  rcases List.suffix_or_suffix_of_suffix hb hs with hin | hin
  · rcases List.suffix_cons_iff.1 hin with heq | hin
    · cases heq
    · exact hin
  · cases h.of_suffix hb with
    | begun _ _ hfresh =>
      rcases List.suffix_cons_iff.1 hin with heq | hin
      · cases heq
      · exact absurd hn (hfresh _ (hin.subset List.mem_cons_self))

/-- A task has followed its plan since it began. -/
theorem Course.follows {rest : Plan (Except ServiceError task.call.Result)}
    (h : Course task past rest) :
    ∃ before, Follows task task.plan (.begun task :: before) past rest := by
  induction h with
  | begun past => exact ⟨past, .stays (.refl _)⟩
  | answered _ reply ih =>
    obtain ⟨before, hf⟩ := ih
    exact ⟨before, hf.answered reply⟩
  | others _ ho ih =>
    obtain ⟨before, hf⟩ := ih
    exact ⟨before, hf.others ho⟩

/-! ## Passing through worlds -/

namespace World

variable {w v : World} {earlier : List Occurrence}

/-- Nothing happens to a task before it begins. -/
theorem Reachable.begun_before (h : w.Reachable) {ask : Ask} {reply : ask.Reply}
    (hs : (.answered task ask reply :: earlier) <:+ w.past) :
    ∃ before, (.begun task :: before) <:+ earlier := by
  obtain ⟨running, hmem, hrunning⟩ :=
    List.mem_map.1 (h.sound.known _ (hs.subset List.mem_cons_self))
  obtain ⟨before, hbegun⟩ := (h.course hmem).exists_begun
  rw [show running.task = task from hrunning] at hbegun
  exact ⟨before, h.sound.chronicle.begun_first hbegun hs rfl⟩

/-- On the way to the other world the run led to this one, in which something has
just happened to the task.  So the task had begun by then, and it had not
returned before. -/
structure Amid (v : World) (task : Task) (w : World) : Prop where
  /-- A run leads to the world. -/
  reachable : v.Reachable
  /-- It leads on to the other one. -/
  leads : v.Leads w
  /-- Something has just happened to the task. -/
  acting : ∃ o earlier, v.past = o :: earlier ∧ o.task = task

/-- Whatever happened, there is a world in which it had just happened; rounds
alone begin at once. -/
theorem Reachable.exists_amid (h : w.Reachable) (hs : (o :: earlier) <:+ w.past)
    (ho : o.startsRound = false) : ∃ v : World, v.Amid o.task w ∧ v.past = o :: earlier := by
  induction h with
  | refl => cases List.eq_nil_of_suffix_nil hs
  | @tail mid last hl hstep ih =>
    have hbefore (hs : (o :: earlier) <:+ mid.past) :
        ∃ v : World, v.Amid o.task last ∧ v.past = o :: earlier := by
      obtain ⟨v, ⟨hv, hl, hacting⟩, hpast⟩ := ih hs
      exact ⟨v, ⟨hv, hl.tail hstep, hacting⟩, hpast⟩
    have hnow (hp : last.past = o :: earlier) :
        ∃ v : World, v.Amid o.task last ∧ v.past = o :: earlier :=
      ⟨last, ⟨hl.tail hstep, .refl, o, earlier, hp, rfl⟩, hp⟩
    rcases hstep.past with heq | ⟨o', heq⟩ | ⟨_, _, _, _, _, heq⟩ <;> rw [heq] at hs
    · exact hbefore hs
    · rcases List.suffix_cons_iff.1 hs with hcons | hs
      · exact hnow (heq.trans hcons.symm)
      · exact hbefore hs
    · rcases List.suffix_cons_iff.1 hs with hcons | hs
      · exact hnow (heq.trans hcons.symm)
      · rcases List.suffix_cons_iff.1 hs with hcons | hs
        · cases hcons
          cases ho
        · exact hbefore hs

end World

end Enrolment
