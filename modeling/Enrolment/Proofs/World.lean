import Enrolment.Proofs.Calls
import Mathlib.Logic.Relation

/-!
# Operations that run together

Any number of calls run together over one store, in any number of processes.  A
step of the world is a new call, a new process, or one answer to one call that
asks; between two asks of a call anything may happen to the others.  Nothing
obliges a call to go on: one that never does was dropped, or its process ended.

The store answers as it is.  The clock, the registry, and whatever is drawn at
random answer as they like, and the registry may answer late or never.

What has happened is kept as a list of occurrences, the latest first.

## Main definitions

* `Task`, `Occurrence` — a call that was made, and what happened to it.
* `Surroundings.Answers` — what may be answered to an ask.
* `World`, `World.Step` — everything, and its steps.
* `World.Reachable` — the worlds that a run from an empty store leads to.
-/

namespace Enrolment

/-! ## Tasks -/

/-- A call that was made. -/
structure Task where
  /-- The number of calls before it. -/
  number : Nat
  /-- The process that it runs in. -/
  process : Nat
  /-- What the process was started with. -/
  service : Service
  /-- The call. -/
  call : Service.Call

/-- The plan of a task. -/
def Task.plan (t : Task) : Plan (Except ServiceError t.call.Result) :=
  (t.call.operation t.service).run

/-- A task and what is left of its plan. -/
structure Running where
  /-- The task. -/
  task : Task
  /-- What is left. -/
  rest : Plan (Except ServiceError task.call.Result)

/-! ## Occurrences -/

/-- What happened to a task. -/
inductive Occurrence
  /-- The call was made. -/
  | begun (task : Task)
  /-- Something it asked for was answered. -/
  | answered (task : Task) (ask : Ask) (reply : ask.Reply)

namespace Occurrence

/-- The task that it happened to. -/
def task : Occurrence → Task
  | begun task => task
  | answered task _ _ => task

/-- The record that an answer tells to be stored now. -/
def stored? : (ask : Ask) → ask.Reply → Option Record
  | .insert _, reply | .replace .., reply => reply.toOption
  | _, _ => none

/-- The record that it wrote. -/
def written? : Occurrence → Option Record
  | begun _ => none
  | answered _ ask reply => stored? ask reply

end Occurrence

/-- The records that were written, the latest first. -/
def written (past : List Occurrence) : List Record := past.filterMap Occurrence.written?

/-! ## Surroundings -/

/-- A process. -/
structure Process where
  /-- What it was started with. -/
  service : Service
  /-- The keysets that it has at hand. -/
  atHand : List (String × Keyset)

/-- What the tasks share. -/
structure Surroundings where
  /-- The store. -/
  store : Store
  /-- The processes, the first one first. -/
  processes : List Process

namespace Surroundings

/-- The keyset that a process has at hand. -/
def atHand (s : Surroundings) (p : Nat) (keyId : String) : Option Keyset :=
  s.processes[p]?.bind (·.atHand.lookup keyId)

/-- A process keeps a keyset at hand. -/
def keep (s : Surroundings) (p : Nat) (keyId : String) (keys : Keyset) : Surroundings :=
  { s with processes := s.processes.modify p fun process =>
      { process with atHand := (keyId, keys) :: process.atHand } }

/-- What may be answered to an ask of a process, and the surroundings after it.
Records of one age are listed in any order. -/
def Answers (p : Nat) : (a : Ask) → Surroundings → a.Reply → Surroundings → Prop
  | .lookup identity, s, reply, s' => reply = s.store.get identity ∧ s' = s
  | .insert r, s, reply, s' =>
    reply = (s.store.create r).1 ∧ s' = { s with store := (s.store.create r).2 }
  | .replace r expected, s, reply, s' =>
    reply = (s.store.put r expected).1 ∧ s' = { s with store := (s.store.put r expected).2 }
  | .ofSubscriber subscriberId, s, reply, s' =>
    reply = .ok (s.store.ofSubscriber subscriberId) ∧ s' = s
  | .withStatus status, s, reply, s' =>
    (∃ rs : List Record, reply = .ok rs ∧ rs.Perm (s.store.withStatus status) ∧
      rs.Pairwise fun a b => a.createdAt.ordinal ≤ b.createdAt.ordinal) ∧ s' = s
  | .storedKeys keyId, s, reply, s' => reply = .ok (s.store.keys? keyId) ∧ s' = s
  | .offerKeys keyId keys, s, reply, s' =>
    reply = .ok (s.store.offerKeys keyId keys).1 ∧
      s' = { s with store := (s.store.offerKeys keyId keys).2 }
  | .keysAtHand keyId, s, reply, s' => reply = s.atHand p keyId ∧ s' = s
  | .keepKeys keyId keys, s, _, s' => s' = s.keep p keyId keys
  | .chance bound, s, reply, s' => reply ≤ bound ∧ s' = s
  | .freshKeys, s, _, s' | .freshName, s, _, s' | .clock, s, _, s' | .pause _, s, _, s'
  | .call .., s, _, s' | .schedule .., s, _, s' => s' = s

end Surroundings

/-! ## Worlds -/

/-- Everything: what the tasks share, the tasks in the order in which they were
called, and what has happened, the latest first. -/
structure World where
  /-- What the tasks share. -/
  surroundings : Surroundings
  /-- The tasks. -/
  running : List Running
  /-- What has happened. -/
  past : List Occurrence

namespace World

/-- An empty store, and no process yet. -/
def empty : World := ⟨⟨.empty, []⟩, [], []⟩

/-- The store. -/
def store (w : World) : Store := w.surroundings.store

/-- The call may be made.  A round is for a record that was stored at some
time. -/
def Admits (past : List Occurrence) : Service.Call → Prop
  | .register r _ => r ∈ written past
  | _ => True

/-- The task of a call that is made now. -/
def nextTask (w : World) (p : Nat) (s : Service) (c : Service.Call) : Task :=
  ⟨w.running.length, p, s, c⟩

/-- Make a call. -/
def begin (w : World) (p : Nat) (s : Service) (c : Service.Call) : World :=
  let task := w.nextTask p s c
  { w with running := w.running ++ [⟨task, task.plan⟩], past := .begun task :: w.past }

/-- Answer an ask of a task. -/
def answer (w : World) (task : Task) (ask : Ask) (reply : ask.Reply)
    (rest : Plan (Except ServiceError task.call.Result)) (s : Surroundings) : World where
  surroundings := s
  running := w.running.set task.number ⟨task, rest⟩
  past := .answered task ask reply :: w.past

/-- Start the round that a task asked for, if it did, in the same process. -/
def spawn (w : World) (task : Task) : Ask → World
  | .schedule r kind => w.begin task.process task.service (.register r kind)
  | _ => w

/-- One step. -/
inductive Step : World → World → Prop
  /-- A call is made in a process. -/
  | call {w : World} {p : Nat} {process : Process} {c : Service.Call}
      (hp : w.surroundings.processes[p]? = some process) (hc : Admits w.past c) :
      Step w (w.begin p process.service c)
  /-- A task asks and is answered. -/
  | answer {w : World} {task : Task} {ask : Ask}
      {next : ask.Reply → Plan (Except ServiceError task.call.Result)} {reply : ask.Reply}
      {s : Surroundings} (hr : w.running[task.number]? = some ⟨task, .step ask next⟩)
      (ha : w.surroundings.Answers task.process ask reply s) :
      Step w ((w.answer task ask reply (next reply) s).spawn task ask)
  /-- A process starts over the same store. -/
  | restart {w : World} (s : Service) :
      Step w { w with surroundings.processes := w.surroundings.processes ++ [⟨s, []⟩] }

/-- A run leads from one world to the other. -/
def Leads : World → World → Prop := Relation.ReflTransGen Step

/-- A run from an empty store leads to the world. -/
def Reachable (w : World) : Prop := Leads empty w

end World

end Enrolment
