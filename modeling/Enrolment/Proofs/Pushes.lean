import Enrolment.Proofs.Challenges
import Enrolment.Proofs.Solo

/-!
# Pushes that race

While the registry challenges a subscriber it may push that the subscriber is
listed, or that the registration is invalid.  Any number of such pushes may come
at the same time.  The first one that replaces the record wins; from then on the
record permits no other of them, and whoever looks at it again finds that it was
decided.  So a push loses at most one round, however many there are.

Nothing is asked of the world that the race begins in: its record may have come
about in any way, and other calls may go on around it.

## Main definitions

* `Status.decides` — the statuses that end a challenge.
* `Task.Pushes` — a call that takes part.
* `Racing` — how far such a call has come.
* `World.Race` — what every step of the race keeps.
* `World.OnlyPushes` — nobody else writes the record.

## Main statements

* `Racing.answered` — what one answer does to a push.
* `World.Step.race`, `World.Leads.race` — every step keeps the race going, and so
  does every run.
* `World.pushes_commit_once` — one push is committed, and all agree on which.
-/

namespace Enrolment

variable {i : Identity} {r new : Record} {target : Status} {won : Option Record} {now : Moment}
  {n k : Nat}

/-! ## Pushes -/

/-- A push of the status ends a challenge. -/
def Status.decides : Status → Bool
  | subscribed | invalid => true
  | _ => false

/-- The call was made when there were so many already, and pushes a status to the
record that ends its challenge. -/
def Task.Pushes (task : Task) (n : Nat) (i : Identity) (target : Status) : Prop :=
  n ≤ task.number ∧ target.decides = true ∧
    ∃ text, task.call = .pushStatus i text ∧ Status.read? text = some target

/-- The record with the status that was pushed. -/
def Record.decided (r : Record) (target : Status) (now : Moment) : Record :=
  { r with status := target, nonce := none, updatedAt := now, version := r.version + 1 }

/-- A record that is challenged moves to the status. -/
theorem follow_challenged (hr : r.status = .underSubscription) (ht : target.decides = true) :
    follow (.pushed target) now r = .ok (some (r.withStatus target now)) := by
  rw [follow_eq_some_iff, hr]
  cases target with
  | subscribed => exact ⟨.subscribed, rfl⟩
  | invalid => exact ⟨.invalidated, rfl⟩
  | initiated | underSubscription | invalidSsl | unsubscribed => cases ht

/-- What is stored then. -/
theorem Record.decided_eq (ht : target.decides = true) :
    { r.withStatus target now with version := r.version + 1 } = r.decided target now := by
  have hstatus : target ≠ .underSubscription := by
    rintro rfl
    cases ht
  simp only [withStatus, decided, if_neg hstatus]

/-- A record that was decided stays as it is. -/
theorem follow_decided (hn : new.status.decides = true) (ht : target.decides = true) :
    follow (.pushed target) now new =
      if new.status = target then .ok none
      else .error (.violation ⟨new.status, .pushed target⟩) := by
  unfold follow
  cases hstatus : new.status <;> rw [hstatus] at hn <;> cases hn <;>
    cases target <;> cases ht <;> rfl

/-! ## How far a push has come -/

/-- What is left of a push.  The record is `r` until somebody has won, and from
then on it is the winner's. -/
inductive Racing (i : Identity) (r : Record) (target : Status) :
    Option Record → Plan (Except ServiceError Record) → Prop
  /-- It is to look at the record.  As long as nobody has won it may still lose a
  round. -/
  | looks {won : Option Record} {rest : Plan (Except ServiceError Record)} (rounds : Nat)
      (hrounds : won = none → 1 ≤ rounds)
      (h : rest = (reviseWithin i (follow (.pushed target)) (rounds + 1)).run) :
      Racing i r target won rest
  /-- It has looked at the record before somebody won. -/
  | looked {won : Option Record} (rounds : Nat) :
      Racing i r target won (.step .clock fun now =>
        (Operation.ofExcept id (follow (.pushed target) now r) >>=
          reviseDecided i (follow (.pushed target)) (rounds + 1) r).run)
  /-- It is to replace that record. -/
  | replaces {won : Option Record} {rest : Plan (Except ServiceError Record)} (rounds : Nat)
      (now : Moment) (h : rest = (reviseDecided i (follow (.pushed target)) (rounds + 1) r
        (some (r.withStatus target now))).run) : Racing i r target won rest
  /-- It has looked at the record of the winner. -/
  | late {new : Record} (rounds : Nat) :
      Racing i r target (some new) (.step .clock fun now =>
        (Operation.ofExcept id (follow (.pushed target) now new) >>=
          reviseDecided i (follow (.pushed target)) rounds new).run)
  /-- It has returned, and pushed what the winner did. -/
  | kept {new : Record} (hs : new.status = target) : Racing i r target (some new) (.done (.ok new))
  /-- It has returned, and pushed something else. -/
  | refused {new : Record} (hs : new.status ≠ target) :
      Racing i r target (some new) (.done (.error (.violation ⟨new.status, .pushed target⟩)))

/-- Somebody else has won. -/
theorem Racing.lose {rest : Plan (Except ServiceError Record)} (h : Racing i r target none rest)
    (new : Record) : Racing i r target (some new) rest := by
  cases h with
  | looks rounds _ h => exact .looks rounds nofun h
  | looked rounds => exact .looked rounds
  | replaces rounds now h => exact .replaces rounds now h

/-- A push that has returned came after the winner. -/
theorem Racing.returned {res : Except ServiceError Record} (h : Racing i r target won (.done res)) :
    ∃ new, won = some new ∧
      res = if new.status = target then .ok new
        else .error (.violation ⟨new.status, .pushed target⟩) := by
  cases h with
  | kept hs => exact ⟨_, rfl, (if_pos hs).symm⟩
  | refused hs => exact ⟨_, rfl, (if_neg hs).symm⟩
  | looks rounds _ hdone =>
    rw [reviseWithin_succ] at hdone
    cases hdone
  | replaces rounds now hdone => cases hdone

/-- The winner's record is the one that was raced for, decided. -/
structure Record.Won (r new : Record) : Prop where
  /-- It is the record of the same identity. -/
  identity : new.identity = r.identity
  /-- It was decided. -/
  decides : new.status.decides = true
  /-- It was written once. -/
  version : new.version = r.version + 1

theorem Record.won_decided (ht : target.decides = true) : r.Won (r.decided target now) :=
  ⟨rfl, ht, rfl⟩

section Answered

variable {s s' : Surroundings} {p : Nat} {ask : Ask} {reply : ask.Reply}
  {next : ask.Reply → Plan (Except ServiceError Record)}

/-- **One answer to a push.**  Either the push wins by it, or the record stays what
it is and the push goes on. -/
theorem Racing.answered (h : Racing i r target won (.step ask next))
    (hstatus : r.status = .underSubscription) (ht : target.decides = true)
    (hi : r.identity = i) (hwon : ∀ new, won = some new → r.Won new)
    (hstored : s.store.get? i = some (won.getD r)) (ha : s.Answers p ask reply s') :
    (won = none ∧ ∃ now, s'.store.get? i = some (r.decided target now) ∧
      next reply = .done (.ok (r.decided target now))) ∨
    (s'.store.get? i = some (won.getD r) ∧ Racing i r target won (next reply)) := by
  cases h with
  | looks rounds hrounds h =>
    rw [reviseWithin_succ] at h
    cases h
    obtain ⟨rfl, rfl⟩ := ha
    refine .inr ⟨hstored, ?_⟩
    rw [Store.get, hstored]
    cases won with
    | none =>
      obtain ⟨rounds, rfl⟩ := Nat.exists_eq_add_of_le' (hrounds rfl)
      exact .looked rounds
    | some new => exact .late rounds
  | looked rounds =>
    obtain rfl := ha
    refine .inr ⟨hstored, ?_⟩
    dsimp only
    rw [follow_challenged hstatus ht]
    exact .replaces rounds reply rfl
  | replaces rounds now h =>
    cases h
    obtain ⟨rfl, rfl⟩ := ha
    cases won with
    | none =>
      have hput : s.store.get? (r.withStatus target now).identity = some r := hi ▸ hstored
      refine .inl ⟨rfl, now, ?_, ?_⟩
      · rw [← Record.decided_eq ht]
        exact (Store.get?_put hput).trans (if_pos hi.symm)
      · rw [Store.put_of_some hput, ← Record.decided_eq ht]
        rfl
    | some new =>
      have hput : s.store.get? (r.withStatus target now).identity = some new := hi ▸ hstored
      have hlost : new.version ≠ r.version := by
        rw [(hwon new rfl).version]
        omega
      rw [Store.put_of_ne hput hlost]
      have hwon' : some new = none → 1 ≤ rounds := fun hnone => absurd hnone (Option.some_ne_none _)
      exact .inr ⟨hstored, .looks rounds hwon' rfl⟩
  | @late new rounds =>
    obtain rfl := ha
    refine .inr ⟨hstored, ?_⟩
    dsimp only
    rw [follow_decided (hwon new rfl).decides ht]
    by_cases hs : new.status = target
    · rw [if_pos hs]
      exact .kept hs
    · rw [if_neg hs]
      exact .refused hs

end Answered

/-! ## The race -/

/-- An answer that writes nothing for an identity leaves its record alone. -/
theorem Surroundings.Answers.get?_eq {s s' : Surroundings} {p : Nat} {ask : Ask} {reply : ask.Reply}
    (ha : s.Answers p ask reply s')
    (hw : ∀ new, Occurrence.stored? ask reply = some new → new.identity ≠ i) :
    s'.store.get? i = s.store.get? i := by
  cases ask with
  | lookup | ofSubscriber | withStatus | storedKeys | keysAtHand | chance =>
    obtain ⟨-, rfl⟩ := ha
    rfl
  | freshKeys | freshName | clock | pause | call | schedule | keepKeys =>
    obtain rfl := ha
    rfl
  | offerKeys =>
    obtain ⟨-, rfl⟩ := ha
    exact Store.get?_offerKeys
  | insert r =>
    obtain ⟨rfl, rfl⟩ := ha
    cases hr : s.store.get? r.identity with
    | none =>
      rw [Store.create_of_none hr] at hw
      exact (Store.get?_create hr).trans (if_neg (hw _ rfl).symm)
    | some old => rw [Store.create_of_some hr]
  | replace r expected =>
    obtain ⟨rfl, rfl⟩ := ha
    cases hr : s.store.get? r.identity with
    | none => rw [Store.put_of_none hr]
    | some old =>
      by_cases hv : old.version = expected
      · subst hv
        rw [Store.put_of_some hr] at hw
        exact (Store.get?_put hr).trans (if_neg (hw _ rfl).symm)
      · rw [Store.put_of_ne hr hv]

namespace World

variable {w₀ w w' : World} {since : List Occurrence}

/-- The call of a number takes part in the race, and this is left of it. -/
def Pushing (w : World) (n : Nat) (i : Identity) (target : Status) (k : Nat)
    (rest : Plan (Except ServiceError Record)) : Prop :=
  n ≤ k ∧ target.decides = true ∧ ∃ p s text, Status.read? text = some target ∧
    w.running[k]? = some ⟨⟨k, p, s, .pushStatus i text⟩, rest⟩

/-- What every step of the race keeps. -/
structure Race (n : Nat) (i : Identity) (r : Record) (won : Option Record) (w : World) : Prop where
  /-- The record is what it was, or what the winner made of it. -/
  stored : w.store.get? i = some (won.getD r)
  /-- The calls of the race were made later. -/
  later : n ≤ w.running.length
  /-- The calls of the race have come somewhere. -/
  racing : ∀ target k rest, w.Pushing n i target k rest → Racing i r target won rest
  /-- The winner is one of them. -/
  winner : ∀ new, won = some new → ∃ target now k rest, w.Pushing n i target k rest ∧
    new = r.decided target now

/-- What the winner stored is the record, decided. -/
theorem Race.won_of (h : Race n i r won w) (new : Record) (hn : won = some new) : r.Won new := by
  obtain ⟨target, now, k, rest, ⟨-, ht, -⟩, rfl⟩ := h.winner new hn
  exact Record.won_decided ht

/-- A call keeps the race going. -/
theorem Race.begin (h : Race n i r won w) (p : Nat) (s : Service) (c : Service.Call) :
    Race n i r won (w.begin p s c) where
  stored := h.stored
  later := by
    simp only [World.begin, List.length_append]
    exact Nat.le_trans h.later (Nat.le_add_right _ _)
  racing := by
    rintro target k rest ⟨hn, ht, q, s', text, htext, hk⟩
    simp only [World.begin, List.getElem?_append] at hk
    split at hk
    · exact h.racing target k rest ⟨hn, ht, q, s', text, htext, hk⟩
    · -- it is the call that was made now
      obtain ⟨_, heq⟩ := List.getElem?_eq_some_iff.1 hk
      rw [List.getElem_singleton] at heq
      cases heq
      refine .looks 15 (fun _ => by decide) ?_
      simp only [Task.plan, nextTask, Service.Call.operation, Service.pushStatus, htext]
      rfl
  winner := by
    intro new hnew
    obtain ⟨target, now, k, rest, ⟨hn, ht, q, s', text, htext, hk⟩, heq⟩ := h.winner new hnew
    refine ⟨target, now, k, rest, ⟨hn, ht, q, s', text, htext, ?_⟩, heq⟩
    exact (List.getElem?_append_left (List.getElem?_eq_some_iff.1 hk).1).trans hk

section Answer

variable {task : Task} {ask : Ask} {next : ask.Reply → Plan (Except ServiceError task.call.Result)}
  {reply : ask.Reply} {s : Surroundings} {rest : Plan (Except ServiceError Record)}

/-- Whoever takes part still does after an answer. -/
theorem Pushing.answer (h : w.Pushing n i target k rest)
    (hr : w.running[task.number]? = some ⟨task, .step ask next⟩) :
    ∃ rest', (w.answer task ask reply (next reply) s).Pushing n i target k rest' := by
  obtain ⟨hn, ht, p, sv, text, htext, hk⟩ := h
  by_cases hkk : task.number = k
  · subst hkk
    obtain ⟨hlt, -⟩ := List.getElem?_eq_some_iff.1 hk
    obtain ⟨number, q, sv', c⟩ := task
    cases Option.some.inj (hr.symm.trans hk)
    exact ⟨next reply, hn, ht, p, sv, text, htext, by simp [World.answer, hlt]⟩
  · exact ⟨rest, hn, ht, p, sv, text, htext, by simpa [World.answer, hkk] using hk⟩

/-- The winner is still one of those who take part. -/
theorem Race.winner_answer (h : Race n i r won w)
    (hr : w.running[task.number]? = some ⟨task, .step ask next⟩) (new : Record)
    (hnew : won = some new) : ∃ target now k rest,
      (w.answer task ask reply (next reply) s).Pushing n i target k rest ∧
        new = r.decided target now := by
  obtain ⟨target, now, k, rest, hpushing, heq⟩ := h.winner new hnew
  obtain ⟨rest', hpushing⟩ := hpushing.answer hr
  exact ⟨target, now, k, rest', hpushing, heq⟩

/-- An answer keeps the race going, if nobody else writes the record. -/
theorem Race.answer (h : Race n i r won w) (hstatus : r.status = .underSubscription)
    (hi : r.identity = i) (hr : w.running[task.number]? = some ⟨task, .step ask next⟩)
    (ha : w.surroundings.Answers task.process ask reply s)
    (hw : ∀ new, Occurrence.stored? ask reply = some new → new.identity = i →
      ∃ target, task.Pushes n i target) :
    ∃ won', Race n i r won' (w.answer task ask reply (next reply) s) := by
  have hlater : n ≤ (w.answer task ask reply (next reply) s).running.length := by
    simpa [World.answer] using h.later
  by_cases hp : ∃ target, task.Pushes n i target
  · obtain ⟨target, hn, ht, text, hcall, htext⟩ := hp
    obtain ⟨k, p, sv, c⟩ := task
    cases hcall
    have hpushing : w.Pushing n i target k _ := ⟨hn, ht, p, sv, text, htext, hr⟩
    rcases (h.racing target k _ hpushing).answered hstatus ht hi h.won_of h.stored ha with
      ⟨rfl, now, hstored, hdone⟩ | ⟨hstored, hnext⟩
    · -- it wins, and the others have lost
      refine ⟨some (r.decided target now), hstored, hlater, ?_, ?_⟩
      · rintro target' k' rest' ⟨hn', ht', q, sv', text', htext', hk'⟩
        rcases getElem?_answer hk' with ⟨-, heq⟩ | ⟨-, hk'⟩
        · cases heq
          obtain rfl : target' = target := Option.some.inj (htext'.symm.trans htext)
          rw [hdone]
          exact .kept rfl
        · exact (h.racing target' k' rest' ⟨hn', ht', q, sv', text', htext', hk'⟩).lose _
      · rintro new ⟨⟩
        obtain ⟨rest', hpushing'⟩ := hpushing.answer hr
        exact ⟨target, now, k, rest', hpushing', rfl⟩
    · refine ⟨won, hstored, hlater, ?_, h.winner_answer hr⟩
      rintro target' k' rest' ⟨hn', ht', q, sv', text', htext', hk'⟩
      rcases getElem?_answer hk' with ⟨-, heq⟩ | ⟨-, hk'⟩
      · cases heq
        obtain rfl : target' = target := Option.some.inj (htext'.symm.trans htext)
        exact hnext
      · exact h.racing target' k' rest' ⟨hn', ht', q, sv', text', htext', hk'⟩
  · -- it takes no part, so it writes other records only
    have hsame : s.store.get? i = w.store.get? i :=
      ha.get?_eq fun new hnew heq => hp (hw new hnew heq)
    refine ⟨won, hsame.trans h.stored, hlater, ?_, h.winner_answer hr⟩
    rintro target' k' rest' ⟨hn', ht', q, sv', text', htext', hk'⟩
    rcases getElem?_answer hk' with ⟨-, heq⟩ | ⟨-, hk'⟩
    · cases heq
      exact absurd ⟨target', hn', ht', text', rfl, htext'⟩ hp
    · exact h.racing target' k' rest' ⟨hn', ht', q, sv', text', htext', hk'⟩

end Answer

/-- A round that is started keeps the race going. -/
theorem Race.spawn (h : Race n i r won w) (task : Task) (ask : Ask) :
    Race n i r won (w.spawn task ask) := by
  cases ask with
  | schedule => exact h.begin ..
  | _ => exact h

/-- What a round that is started adds to what has happened. -/
private theorem suffix_past_spawn (task : Task) (ask : Ask) :
    w.past <:+ (w.spawn task ask).past := by
  cases ask with
  | schedule => exact List.suffix_cons ..
  | _ => exact List.suffix_rfl

/-- Whoever wrote the record of an identity pushed. -/
def OnlyPushes (n : Nat) (i : Identity) (since : List Occurrence) : Prop :=
  ∀ o ∈ since, ∀ new, o.written? = some new → new.identity = i → ∃ target, o.task.Pushes n i target

/-- **Every step keeps the race going.** -/
theorem Step.race (hs : w.Step w') (h : Race n i r won w) (hstatus : r.status = .underSubscription)
    (hi : r.identity = i) (hpast : since ++ w.past = w'.past) (honly : OnlyPushes n i since) :
    ∃ won', Race n i r won' w' := by
  cases hs with
  | call => exact ⟨won, h.begin ..⟩
  | @answer task ask next reply s hr ha =>
    obtain ⟨more, hmore⟩ :=
      (w.answer task ask reply (next reply) s).suffix_past_spawn task ask
    have hsince : since = more ++ [.answered task ask reply] := by
      refine List.append_cancel_right (hpast.trans (hmore.symm.trans ?_))
      rw [List.append_assoc]
      rfl
    have hmem : .answered task ask reply ∈ since :=
      hsince ▸ List.mem_append_right more List.mem_cons_self
    obtain ⟨won', h'⟩ := h.answer hstatus hi hr ha (honly _ hmem)
    exact ⟨won', h'.spawn task ask⟩
  | restart s => exact ⟨won, ⟨h.stored, h.later, h.racing, h.winner⟩⟩

/-- So whole runs keep it. -/
theorem Leads.race (hl : w₀.Leads w) (hstored : w₀.store.get? i = some r)
    (hstatus : r.status = .underSubscription) (hi : r.identity = i)
    (hpast : since ++ w₀.past = w.past) (honly : OnlyPushes w₀.running.length i since) :
    ∃ won, Race w₀.running.length i r won w := by
  induction hl generalizing since with
  | refl =>
    refine ⟨none, hstored, Nat.le_refl _, ?_, fun _ hnew => nomatch hnew⟩
    rintro target k rest ⟨hn, -, p, s, text, -, hk⟩
    exact absurd (List.getElem?_eq_some_iff.1 hk).1 (Nat.not_lt.2 hn)
  | @tail w₁ w₂ hl hs ih =>
    obtain ⟨earlier, hearlier⟩ := Leads.past hl
    obtain ⟨last, hlast⟩ := Leads.past (.single hs)
    have hsince : since = last ++ earlier := by
      refine List.append_cancel_right (hpast.trans (hlast.symm.trans ?_))
      rw [← hearlier, List.append_assoc]
    rw [hsince] at honly
    obtain ⟨won, h⟩ := ih hearlier fun o ho => honly o (List.mem_append_right _ ho)
    exact hs.race h hstatus hi hlast fun o ho => honly o (List.mem_append_left _ ho)

/-- **Pushes that race are committed once.**  A record is challenged, and any
number of calls push that the subscriber is listed or that the registration is
invalid, while nobody else writes the record.  Once one of them has returned, the
record holds the status that one of them pushed; it has no nonce and was written
once.  Every call that has returned, however many rounds it lost, pushed that
status and returns the record, or pushed the other and is told that the record
permits no such step from it. -/
theorem pushes_commit_once (hl : w₀.Leads w) (hstored : w₀.store.get? i = some r)
    (hstatus : r.status = .underSubscription) (hpast : w.past = since ++ w₀.past)
    (honly : OnlyPushes w₀.running.length i since) {target : Status} {k : Nat}
    {res : Except ServiceError Record}
    (hreturned : w.Pushing w₀.running.length i target k (.done res)) :
    ∃ S now, (S = .subscribed ∨ S = .invalid) ∧
      (∃ k rest, w.Pushing w₀.running.length i S k rest) ∧
      w.store.get? i = some { r with
        status := S, nonce := none, updatedAt := now, version := r.version + 1 } ∧
      ∀ target k res, w.Pushing w₀.running.length i target k (.done res) →
        (target = S → ∃ new, res = .ok new ∧ new.status = S ∧ w.store.get? i = some new) ∧
        (target ≠ S → res = .error (.violation ⟨S, .pushed target⟩)) := by
  obtain ⟨won, h⟩ := hl.race hstored hstatus (Store.identity_of_get? hstored) hpast.symm honly
  obtain ⟨_, rfl, -⟩ := (h.racing target k _ hreturned).returned
  obtain ⟨S, now, k', rest, hwinner, rfl⟩ := h.winner _ rfl
  have hS : S = .subscribed ∨ S = .invalid := by
    have hdecides := hwinner.2.1
    cases S with
    | subscribed => exact .inl rfl
    | invalid => exact .inr rfl
    | initiated | underSubscription | invalidSsl | unsubscribed => cases hdecides
  refine ⟨S, now, hS, ⟨k', rest, hwinner⟩, h.stored, ?_⟩
  intro target k res hres
  obtain ⟨_, ⟨⟩, rfl⟩ := (h.racing target k _ hres).returned
  exact ⟨fun heq => ⟨_, if_pos heq.symm, rfl, h.stored⟩, fun hne => if_neg fun heq => hne heq.symm⟩

/-- A registration is made and acknowledged. -/
def acknowledged : World := empty.play
  ([.restart .sample, .call 0 (.create sampleIdentity "BAP" (.plain "https://host" "domain"))] ++
    List.replicate 8 (.answer 0 .sample) ++ List.replicate 6 (.answer 1 .sample))

/-- Three pushes look at the record.  The second one replaces it first. -/
def rush : List Move :=
  ["SUBSCRIBED", "INVALID", "subscribed"].map
      (fun text => .call 0 (.pushStatus sampleIdentity text)) ++
    [2, 3, 4].flatMap (fun k => List.replicate 2 (.answer k .sample)) ++
    [3, 2, 4, 2, 2, 4, 4].map (.answer · .sample)

/-- The push has returned what was stored. -/
def hasPushed (running : Running) : Bool :=
  match running with
  | ⟨⟨k, _, _, .pushStatus j text⟩, .done (.ok r)⟩ =>
    k = 3 && j = sampleIdentity && Status.read? text = some .invalid && r.status = .invalid
  | _ => false

/-- The occurrence writes nothing, or is one of a push. -/
def leavesToPushes (o : Occurrence) : Bool :=
  o.written?.isNone || match o.task.call with
    | .pushStatus j text =>
      2 ≤ o.task.number && j = sampleIdentity && (Status.read? text).any Status.decides
    | _ => false

theorem onlyPushes_of_all (hn : n = 2) (h : since.all leavesToPushes = true) :
    OnlyPushes n sampleIdentity since := by
  subst hn
  intro o ho new hnew _
  have hleaves := List.all_eq_true.1 h o ho
  rw [leavesToPushes, hnew] at hleaves
  split at hleaves
  · rename_i j text hcall
    simp only [Option.isNone_some, Bool.false_or, Bool.and_eq_true, decide_eq_true_eq,
      Option.any_eq_true] at hleaves
    obtain ⟨⟨hn, rfl⟩, target, htext, ht⟩ := hleaves
    exact ⟨target, hn, ht, text, hcall, htext⟩
  · cases hleaves

/-- One of three pushes is committed. -/
theorem pushes_committed_rush : ∃ (w₀ w : World) (r : Record) (since : List Occurrence)
    (k : Nat) (res : Except ServiceError Record), w₀.Reachable ∧ w₀.Leads w ∧
    w₀.store.get? sampleIdentity = some r ∧ r.status = .underSubscription ∧
    w.past = since ++ w₀.past ∧ OnlyPushes w₀.running.length sampleIdentity since ∧
    w.Pushing w₀.running.length sampleIdentity .invalid k (.done res) ∧
    ∃ S now, w.store.get? sampleIdentity = some { r with
      status := S, nonce := none, updatedAt := now, version := r.version + 1 } := by
  have hreach : acknowledged.Reachable := leads_play _ _
  have hleads : acknowledged.Leads (acknowledged.play rush) := leads_play _ _
  have hchallenged : (acknowledged.store.get? sampleIdentity).map (·.status) =
      some .underSubscription := by
    decide +kernel
  have hlength : acknowledged.running.length = 2 := by decide +kernel
  have hpushed : ((acknowledged.play rush).running[3]?).map hasPushed = some true := by
    decide +kernel
  have hleaves : ((acknowledged.play rush).past.take
      ((acknowledged.play rush).past.length - acknowledged.past.length)).all leavesToPushes =
        true := by
    decide +kernel
  obtain ⟨r, hr, hstatus⟩ := Option.map_eq_some_iff.1 hchallenged
  have hpast := (List.suffix_iff_eq_append.1 hleads.past).symm
  have honly := onlyPushes_of_all hlength hleaves
  obtain ⟨running, hrunning, hup⟩ := Option.map_eq_some_iff.1 hpushed
  unfold hasPushed at hup
  split at hup
  · rename_i k p sv j text new
    simp only [Bool.and_eq_true, decide_eq_true_eq] at hup
    obtain ⟨⟨⟨rfl, rfl⟩, htext⟩, -⟩ := hup
    have hreturned : (acknowledged.play rush).Pushing acknowledged.running.length sampleIdentity
        .invalid 3 (.done (.ok new)) :=
      ⟨by rw [hlength]; decide, rfl, p, sv, text, htext, hrunning⟩
    obtain ⟨S, now, -, -, hstored, -⟩ :=
      pushes_commit_once hleads hr hstatus hpast honly hreturned
    exact ⟨acknowledged, _, r, _, 3, _, hreach, hleads, hr, hstatus, hpast, honly,
      hreturned, S, now, hstored⟩
  · cases hup

end World

end Enrolment
