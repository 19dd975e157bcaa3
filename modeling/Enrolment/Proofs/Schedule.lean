import Enrolment.Proofs.Contents
import Enrolment.Proofs.World

/-!
# Runs that are carried out

Once everything that is free is drawn beforehand, a list of moves decides a run.
So runs can be carried out, and whatever a list of moves does is a run.

## Main definitions

* `Draws` — what the surroundings are free to answer.
* `Surroundings.respond` — what they answer.
* `Move`, `World.move`, `World.next`, `World.play` — carry out a run.
* `World.RoundsAsked` — every round that began was asked for.
* `twoRounds`, `rivalRounds`, `race`, `renewal` — runs of two processes.

## Main statements

* `Surroundings.respond_answers` — the answers are some that may be given.
* `World.step_of_move`, `World.step_next`, `World.leads_play` — moves are steps.
* `World.roundsAsked_play` — moves begin only rounds that are asked for.
-/

namespace Enrolment

/-- What the surroundings are free to answer. -/
structure Draws where
  /-- The time. -/
  now : Moment
  /-- A keyset that is made. -/
  keys : Keyset
  /-- A name that is made. -/
  name : String
  /-- A number that is drawn. -/
  number : Nat
  /-- The registry's answer. -/
  heard : Except RegistryError Ack

namespace Surroundings

/-- What the surroundings answer to an ask of a process. -/
def respond (d : Draws) (p : Nat) : (a : Ask) → Surroundings → a.Reply × Surroundings
  | .lookup identity, s => (s.store.get identity, s)
  | .insert r, s => ((s.store.create r).1, { s with store := (s.store.create r).2 })
  | .replace r expected, s =>
    ((s.store.put r expected).1, { s with store := (s.store.put r expected).2 })
  | .ofSubscriber subscriberId, s => (.ok (s.store.ofSubscriber subscriberId), s)
  | .withStatus status, s => (.ok (s.store.withStatus status), s)
  | .storedKeys keyId, s => (.ok (s.store.keys? keyId), s)
  | .offerKeys keyId keys, s =>
    (.ok (s.store.offerKeys keyId keys).1, { s with store := (s.store.offerKeys keyId keys).2 })
  | .keysAtHand keyId, s => (s.atHand p keyId, s)
  | .keepKeys keyId keys, s => ((), s.keep p keyId keys)
  | .freshKeys, s => (d.keys, s)
  | .freshName, s => (d.name, s)
  | .clock, s => (d.now, s)
  | .chance bound, s => (min d.number bound, s)
  | .pause _, s => ((), s)
  | .call .., s => (d.heard, s)
  | .schedule .., s => ((), s)

/-- The answers are some that may be given. -/
theorem respond_answers (d : Draws) (p : Nat) (a : Ask) (s : Surroundings) :
    s.Answers p a (s.respond d p a).1 (s.respond d p a).2 := by
  cases a with
  | withStatus status => exact ⟨⟨_, rfl, .refl _, Store.pairwise_withStatus⟩, rfl⟩
  | chance bound => exact ⟨Nat.min_le_right _ _, rfl⟩
  | lookup | insert | replace | ofSubscriber | storedKeys | offerKeys | keysAtHand =>
    exact ⟨rfl, rfl⟩
  | keepKeys | freshKeys | freshName | clock | pause | call | schedule => rfl

end Surroundings

/-- What may be done next in a run. -/
inductive Move
  /-- Make a call in a process. -/
  | call (process : Nat) (c : Service.Call)
  /-- Answer the task of a number. -/
  | answer (number : Nat) (d : Draws)
  /-- Start a process. -/
  | restart (s : Service)

namespace World

/-- The world after a move that can be made.  Rounds begin by being asked for. -/
def move (w : World) : Move → Option World
  | .call p c =>
    if c.isRound then none
    else (w.surroundings.processes[p]?).map fun process => w.begin p process.service c
  | .answer k d =>
    match w.running[k]? with
    | some ⟨task, .step ask next⟩ =>
      if task.number = k then
        let (reply, s) := w.surroundings.respond d task.process ask
        some ((w.answer task ask reply (next reply) s).spawn task ask)
      else none
    | _ => none
  | .restart s => some { w with surroundings.processes := w.surroundings.processes ++ [⟨s, []⟩] }

/-- The world after a move, which is left out if it cannot be made. -/
def next (w : World) (m : Move) : World := (w.move m).getD w

/-- The world after moves. -/
def play (w : World) : List Move → World
  | [] => w
  | m :: moves => (w.next m).play moves

/-- A move is a step. -/
theorem step_of_move {w w' : World} {m : Move} (h : w.move m = some w') : w.Step w' := by
  cases m with
  | call p c =>
    simp only [move] at h
    split at h
    · cases h
    · rename_i hr
      obtain ⟨process, hp, rfl⟩ := Option.map_eq_some_iff.1 h
      refine .call hp ?_
      cases c with
      | register => simp [Service.Call.isRound] at hr
      | _ => exact trivial
  | answer k d =>
    simp only [move] at h
    split at h
    · rename_i task ask next hk
      split at h
      · rename_i hn
        subst hn
        obtain rfl := Option.some.inj h
        exact .answer hk (w.surroundings.respond_answers d task.process ask)
      · cases h
    · cases h
  | restart s =>
    obtain rfl := Option.some.inj h
    exact .restart s

theorem step_next {w : World} {m : Move} (h : (w.move m).isSome = true) : w.Step (w.next m) := by
  obtain ⟨w', hw'⟩ := Option.isSome_iff_exists.1 h
  rw [next, hw']
  exact step_of_move hw'

/-- Moves are a run. -/
theorem leads_play (w : World) (moves : List Move) : w.Leads (w.play moves) := by
  induction moves generalizing w with
  | nil => exact .refl
  | cons m moves ih =>
    cases h : w.move m with
    | none =>
      have hstay : w.next m = w := by rw [next, h, Option.getD_none]
      rw [play, hstay]
      exact ih w
    | some w' => exact .head (step_next (by rw [h, Option.isSome_some])) (ih _)

/-- Every round that began was asked for. -/
def RoundsAsked (past : List Occurrence) : Prop :=
  ∀ (round : Task) (r : Record) (kind : RoundKind), .begun round ∈ past →
    round.call = .register r kind → ∃ task, .answered task (.schedule r kind) () ∈ past

/-- What is no beginning of a round may happen. -/
theorem RoundsAsked.cons {past : List Occurrence} {o : Occurrence} (h : RoundsAsked past)
    (ho : ∀ round, o = .begun round → round.call.isRound = false) : RoundsAsked (o :: past) := by
  intro round r kind hbegun hc
  rcases List.mem_cons.1 hbegun with rfl | hbegun
  · have hround := ho round rfl
    rw [hc] at hround
    cases hround
  · obtain ⟨task, htask⟩ := h _ _ _ hbegun hc
    exact ⟨task, List.mem_cons_of_mem _ htask⟩

end World

/-! ## Runs of two processes -/

/-- What is drawn. -/
def Draws.sample : Draws := ⟨.epoch, ⟨[], []⟩, "request", 0, .ok ⟨"ACK", "request"⟩⟩

/-- What is drawn, but the registry refuses. -/
def Draws.refused : Draws := { sample with heard := .error (.rejected 400 "code" "message") }

/-- What the processes are started with. -/
def Service.sample : Service := ⟨"", ⟨1, 0, 0, 1, false⟩⟩

/-- Whom the registration is for. -/
def sampleIdentity : Identity := ⟨"subscriber", "key"⟩

/-- A process makes the registration and starts a round, and another process
finds that it waits and starts one too. -/
def twoRounds : List Move :=
  [.restart .sample, .call 0 (.create sampleIdentity "BAP" (.plain "https://host" "domain"))] ++
    List.replicate 8 (.answer 0 .sample) ++ [.restart .sample, .call 1 .resume] ++
    List.replicate 2 (.answer 2 .sample)

/-- Both rounds hear the registry and look at the record, and have still to
replace it. -/
def rivalRounds : List Move :=
  twoRounds ++ List.replicate 5 (.answer 1 .sample) ++ List.replicate 7 (.answer 3 .sample)

/-- After the two rounds began, both go on until they have looked at the record.
The first one replaces it, and the other one has to look once more. -/
def race : List Move :=
  List.replicate 5 (.answer 1 .sample) ++ List.replicate 7 (.answer 3 .sample) ++
    [.answer 1 .sample] ++ List.replicate 3 (.answer 3 .sample)

/-- The first round is refused and the registration is made again, before the
other round and the new one are acknowledged. -/
def renewal : List Move :=
  twoRounds ++ List.replicate 6 (.answer 1 .refused) ++
    [.call 0 (.update sampleIdentity "BPP" (.plain "https://host" "domain"))] ++
    List.replicate 6 (.answer 4 .sample) ++ List.replicate 7 (.answer 3 .sample) ++
    List.replicate 8 (.answer 5 .sample)

end Enrolment
