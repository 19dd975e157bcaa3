import Enrolment.Proofs.Contents
import Enrolment.Proofs.Schedule
import Enrolment.Proofs.Upholds

/-!
# Operations that run by themselves

An operation that nothing comes in between of is a function of what it finds and
of what it draws: the readings of the clock, the names and numbers that are made
for it, what it hears of the registry, and the keyset that it is given for a key
that has none.  It always ends, since every ask is answered.

## Main definitions

* `Lot` — what an operation draws.
* `Stage`, `Stage.respond` — what an operation meets, and what it is answered.
* `Plan.solo`, `Operation.solo` — what it ends with.
* `Surroundings.found`, `Surroundings.warm` — the keyset that a process finds for
  a key, and what it has at hand then.

## Main statements

* `Keys.solo_find`, `Keys.solo_ensure` — what is found of a key.
* `World.exists_solo`, `World.Reachable.exists_call` — what runs by itself is part of a run.
-/

namespace Enrolment

/-- What an operation draws, each sequence from its first member on. -/
structure Lot where
  /-- The readings of the clock. -/
  readings : Nat → Moment
  /-- The names that are made. -/
  names : Nat → String
  /-- The numbers that are drawn. -/
  numbers : Nat → Nat
  /-- What is heard of the registry. -/
  heard : Nat → Except RegistryError Ack
  /-- The keyset that is made. -/
  keys : Keyset

namespace Lot

/-- What is drawn next. -/
def draws (l : Lot) : Draws := ⟨l.readings 0, l.keys, l.names 0, l.numbers 0, l.heard 0⟩

/-- What is left after an ask. -/
def after (l : Lot) : Ask → Lot
  | .clock => { l with readings := fun n => l.readings (n + 1) }
  | .freshName => { l with names := fun n => l.names (n + 1) }
  | .chance _ => { l with numbers := fun n => l.numbers (n + 1) }
  | .call .. => { l with heard := fun n => l.heard (n + 1) }
  | _ => l

/-- The same is drawn over and over. -/
def sample (keys : Keyset) : Lot :=
  ⟨fun _ => .epoch, fun _ => "request", fun _ => 0, fun _ => .ok ⟨"ACK", "request"⟩, keys⟩

@[simp] theorem keys_after (l : Lot) (ask : Ask) : (l.after ask).keys = l.keys := by
  cases ask <;> rfl

end Lot

/-- What an operation meets. -/
structure Stage where
  /-- What it draws. -/
  lot : Lot
  /-- What it finds. -/
  surroundings : Surroundings

/-- The store. -/
abbrev Stage.store (t : Stage) : Store := t.surroundings.store

/-- What an ask is answered, and what is met then. -/
def Stage.respond (p : Nat) (t : Stage) (ask : Ask) : ask.Reply × Stage :=
  ((t.surroundings.respond t.lot.draws p ask).1,
    ⟨t.lot.after ask, (t.surroundings.respond t.lot.draws p ask).2⟩)

/-- The ask is answered by what was drawn, whatever the surroundings are. -/
def Ask.isDrawn : Ask → Bool
  | clock | freshKeys | freshName | chance _ | pause _ | call .. | schedule .. => true
  | _ => false

/-- Who draws the same is answered the same, and nothing else happens. -/
theorem Stage.respond_of_isDrawn {t u : Stage} {p : Nat} {ask : Ask} (h : ask.isDrawn = true)
    (hl : u.lot = t.lot) : (u.respond p ask).1 = (t.respond p ask).1 ∧
      (t.respond p ask).2 = ⟨t.lot.after ask, t.surroundings⟩ ∧
        (u.respond p ask).2 = ⟨t.lot.after ask, u.surroundings⟩ := by
  unfold respond
  rw [hl]
  cases ask with
  | lookup | insert | replace | ofSubscriber | withStatus | storedKeys | offerKeys | keysAtHand
  | keepKeys => cases h
  | clock | freshKeys | freshName | chance | pause | call | schedule => exact ⟨rfl, rfl, rfl⟩

/-- What a plan ends with that runs by itself in a process. -/
def Plan.solo {α : Type} (p : Nat) : Plan α → Stage → α × Stage
  | done a, t => (a, t)
  | step ask next, t => (next (t.respond p ask).1).solo p (t.respond p ask).2

variable {α β : Type} {p : Nat} {t t₁ : Stage} {s : Surroundings} {keyId : String} {keys : Keyset}

theorem Plan.solo_bind (x : Plan α) (f : α → Plan β) :
    (x >>= f).solo p t = (f (x.solo p t).1).solo p (x.solo p t).2 := by
  induction x generalizing t with
  | done a => rfl
  | step ask next ih => exact ih _

theorem Plan.solo_map (x : Plan α) (f : α → β) :
    (f <$> x).solo p t = (f (x.solo p t).1, (x.solo p t).2) := by
  rw [map_eq_pure_bind, solo_bind]
  rfl

/-- What an operation ends with that runs by itself in a process. -/
def Operation.solo (p : Nat) (x : Operation α) (t : Stage) : Except ServiceError α × Stage :=
  x.run.solo p t

namespace Operation

variable {x : Operation α} {f : α → Operation β}

theorem solo_bind_ok {a : α} (h : x.solo p t = (.ok a, t₁)) :
    (x >>= f).solo p t = (f a).solo p t₁ := by
  have hrun : x.run.solo p t = (.ok a, t₁) := h
  refine (Plan.solo_bind x.run (ExceptT.bindCont f)).trans ?_
  rw [hrun]
  rfl

theorem solo_bind_error {e : ServiceError} (h : x.solo p t = (.error e, t₁)) :
    (x >>= f).solo p t = (.error e, t₁) := by
  have hrun : x.run.solo p t = (.error e, t₁) := h
  refine (Plan.solo_bind x.run (ExceptT.bindCont f)).trans ?_
  rw [hrun]
  rfl

theorem solo_ask_bind {ask : Ask} {f : ask.Reply → Operation β} :
    (Operation.ask ask >>= f).solo p t = (f (t.respond p ask).1).solo p (t.respond p ask).2 :=
  rfl

theorem solo_map_ok {g : α → β} {a : α} (h : x.solo p t = (.ok a, t₁)) :
    (g <$> x).solo p t = (.ok (g a), t₁) := by
  rw [map_eq_pure_bind]
  exact solo_bind_ok h

theorem solo_map_error {g : α → β} {e : ServiceError} (h : x.solo p t = (.error e, t₁)) :
    (g <$> x).solo p t = (.error e, t₁) := by
  rw [map_eq_pure_bind]
  exact solo_bind_error h

theorem solo_adapt_ok {g : ServiceError → ServiceError} {a : α} (h : x.solo p t = (.ok a, t₁)) :
    (ExceptT.adapt g x).solo p t = (.ok a, t₁) := by
  have hrun : x.run.solo p t = (.ok a, t₁) := h
  have hadapt : (ExceptT.adapt g x).run = Except.mapError g <$> x.run := rfl
  have hmap := Plan.solo_map x.run (Except.mapError g) (p := p) (t := t)
  rw [hrun] at hmap
  exact (congrArg (Plan.solo p · t) hadapt).trans hmap

end Operation

/-! ## Keysets -/

namespace Surroundings

theorem atHand_keep {q : Nat} {k : String} : (s.keep p keyId keys).atHand q k =
    if q = p ∧ k = keyId ∧ p < s.processes.length then some keys else s.atHand q k := by
  simp only [atHand, keep, List.getElem?_modify]
  by_cases hq : p = q
  · subst hq
    cases hp : s.processes[p]? with
    | none =>
      have hlen : ¬p < s.processes.length := by simpa using hp
      simp [hlen]
    | some process =>
      have hlen : p < s.processes.length := (List.getElem?_eq_some_iff.1 hp).1
      by_cases hk : k = keyId
      · simp [hk, hlen]
      · have hbeq : (k == keyId) = false := by simpa using hk
        simp [hk, List.lookup_cons, hbeq]
  · simp [hq, Ne.symm hq]

/-- The keyset that a process finds for a key. -/
def found (s : Surroundings) (p : Nat) (keyId : String) : Option Keyset :=
  (s.atHand p keyId).or (s.store.keys? keyId)

/-- What is at hand once the keyset of a key was looked for. -/
def warm (s : Surroundings) (p : Nat) (keyId : String) : Surroundings :=
  match s.atHand p keyId, s.store.keys? keyId with
  | none, some keys => s.keep p keyId keys
  | _, _ => s

/-- Nothing is kept that is at hand already or not stored. -/
theorem warm_eq_self (h : (s.atHand p keyId).isSome = true ∨ (s.store.keys? keyId).isSome = false) :
    s.warm p keyId = s := by
  unfold warm
  split
  · rename_i hhand hstored
    rw [hhand, hstored] at h
    exact h.elim nofun nofun
  · rfl

theorem warm_eq_keep (hhand : s.atHand p keyId = none) (hstored : s.store.keys? keyId = some keys) :
    s.warm p keyId = s.keep p keyId keys := by
  rw [warm, hhand, hstored]

@[simp] theorem store_warm : (s.warm p keyId).store = s.store := by
  unfold warm
  split <;> rfl

/-- What is there once a key was given a keyset, unless it has one. -/
def supply (s : Surroundings) (p : Nat) (keyId : String) (keys : Keyset) : Surroundings :=
  match s.found p keyId with
  | some _ => s.warm p keyId
  | none => { s with store := (s.store.offerKeys keyId keys).2 }.keep p keyId keys

/-- A keyset changes no record. -/
@[simp] theorem get?_supply {i : Identity} :
    (s.supply p keyId keys).store.get? i = s.store.get? i := by
  unfold supply
  split
  · rw [store_warm]
  · exact Store.get?_offerKeys

/-- Other records, and the same keysets. -/
theorem found_withStore {store : Store} (h : store.keys? keyId = s.store.keys? keyId) :
    { s with store := store }.found p keyId = s.found p keyId := by
  show (s.atHand p keyId).or (store.keys? keyId) = _
  rw [h, found]

/-- A keyset that is kept and stored is found. -/
theorem found_keep (h : s.store.keys? keyId = some keys) (ha : s.atHand p keyId = none) :
    (s.keep p keyId keys).found p keyId = some keys := by
  have hstored : (s.keep p keyId keys).store.keys? keyId = some keys := h
  rw [found, atHand_keep, hstored, ha]
  split <;> rfl

/-- Once it was looked for, the same keyset is found. -/
@[simp] theorem found_warm : (s.warm p keyId).found p keyId = s.found p keyId := by
  unfold warm
  split
  · rename_i keys ha hk
    rw [found_keep hk ha, found, ha, hk, Option.none_or]
  · rfl

/-- The keyset that a key was given is found. -/
theorem found_supply :
    (s.supply p keyId keys).found p keyId = some ((s.found p keyId).getD keys) := by
  unfold supply
  cases hfound : s.found p keyId with
  | some old => simp [hfound]
  | none =>
    obtain ⟨hhand, hstored⟩ := Option.or_eq_none_iff.1 hfound
    exact found_keep (by simp [Store.keys?_offerKeys, hstored]) hhand

end Surroundings

/-- What is met once the keyset of a key was looked for. -/
def Stage.warm (t : Stage) (p : Nat) (keyId : String) : Stage :=
  { t with surroundings := t.surroundings.warm p keyId }

/-- What is met once a key was given a keyset, unless it has one. -/
def Stage.supply (t : Stage) (p : Nat) (keyId : String) : Stage :=
  { t with surroundings := t.surroundings.supply p keyId t.lot.keys }

namespace Keys

theorem solo_find? :
    (find? keyId).solo p t = (.ok (t.surroundings.found p keyId), t.warm p keyId) := by
  unfold find? Surroundings.found Stage.warm Surroundings.warm
  rw [Operation.solo_ask_bind]
  simp only [Stage.respond, Surroundings.respond]
  cases t.surroundings.atHand p keyId with
  | some keys => rfl
  | none =>
    dsimp only
    rw [Operation.solo_ask_bind]
    simp only [Stage.respond, Surroundings.respond, Operation.ofStore_ok, pure_bind]
    cases t.surroundings.store.keys? keyId <;> rfl

/-- A keyset is found, or there is none. -/
theorem solo_find : (find keyId).solo p t =
    ((t.surroundings.found p keyId).elim (.error (.keyNotFound keyId)) .ok, t.warm p keyId) := by
  unfold find
  rw [Operation.solo_bind_ok solo_find?]
  cases t.surroundings.found p keyId <;> rfl

theorem solo_publicKeys : (publicKeys keyId).solo p t =
    ((t.surroundings.found p keyId).elim (.error (.keyNotFound keyId)) (.ok ·.publicKeys),
      t.warm p keyId) := by
  have hfind : (find keyId).solo p t = _ := solo_find
  unfold publicKeys
  cases h : t.surroundings.found p keyId with
  | none =>
    rw [h] at hfind
    exact Operation.solo_map_error hfind
  | some keys =>
    rw [h] at hfind
    exact Operation.solo_map_ok hfind

/-- A key that has no keyset is given the one that is made. -/
theorem solo_ensure : (ensure keyId).solo p t =
    (.ok ((t.surroundings.found p keyId).getD t.lot.keys).publicKeys, t.supply p keyId) := by
  unfold ensure Stage.supply Surroundings.supply
  rw [Operation.solo_bind_ok solo_find?]
  cases hfound : t.surroundings.found p keyId with
  | some keys => rfl
  | none =>
    obtain ⟨hhand, hstored⟩ := Option.or_eq_none_iff.1 hfound
    have hwarm : t.warm p keyId = t := by
      rw [Stage.warm, Surroundings.warm_eq_self (.inr (by rw [hstored, Option.isSome_none]))]
    have hoffered : (t.surroundings.store.offerKeys keyId t.lot.keys).1 = t.lot.keys := by
      rw [Store.offerKeys_fst, hstored, Option.getD_none]
    rw [hwarm, Operation.solo_ask_bind, Operation.solo_ask_bind]
    simp only [Stage.respond, Surroundings.respond, Lot.draws, hoffered, Operation.ofStore_ok,
      pure_bind]
    rfl

end Keys

/-! ## Part of a run -/

namespace World

variable {w : World} {task : Task}

theorem surroundings_spawn (ask : Ask) : (w.spawn task ask).surroundings = w.surroundings := by
  cases ask <;> rfl

/-- A round that begins leaves the tasks before it what they are. -/
theorem getElem?_spawn {ask : Ask} {k : Nat} {running : Running}
    (h : w.running[k]? = some running) : (w.spawn task ask).running[k]? = some running := by
  cases ask with
  | schedule r kind =>
    have hk : k < w.running.length := (List.getElem?_eq_some_iff.1 h).1
    simpa [spawn, begin, List.getElem?_append_left hk] using h
  | _ => exact h

/-- A task that runs by itself is part of a run, whatever it draws. -/
theorem exists_solo {rest : Plan (Except ServiceError task.call.Result)} (l : Lot)
    (h : w.running[task.number]? = some ⟨task, rest⟩) :
    ∃ w' : World, w.Leads w' ∧
      w'.surroundings = (rest.solo task.process ⟨l, w.surroundings⟩).2.surroundings ∧
        w'.running[task.number]? =
          some ⟨task, .done (rest.solo task.process ⟨l, w.surroundings⟩).1⟩ := by
  induction rest generalizing w l with
  | done res => exact ⟨w, .refl, rfl, h⟩
  | step ask next ih =>
    have hanswers := w.surroundings.respond_answers l.draws task.process ask
    have hstep := Step.answer h hanswers
    have hrunning : ((w.answer task ask (w.surroundings.respond l.draws task.process ask).1
        (next (w.surroundings.respond l.draws task.process ask).1)
        (w.surroundings.respond l.draws task.process ask).2).spawn task ask).running[task.number]? =
          some ⟨task, next (w.surroundings.respond l.draws task.process ask).1⟩ := by
      have hk : task.number < w.running.length := (List.getElem?_eq_some_iff.1 h).1
      exact getElem?_spawn (by simp [World.answer, hk])
    obtain ⟨w', hl, hs, hr⟩ := ih _ (l.after ask) hrunning
    rw [surroundings_spawn] at hs hr
    exact ⟨w', .head hstep hl, hs, hr⟩

/-- A call that may be made, and then runs by itself, is part of a run. -/
theorem Reachable.exists_call {process : Process} {c : Service.Call} (h : w.Reachable) (l : Lot)
    (hp : w.surroundings.processes[p]? = some process) (hc : Admits w.past c) :
    ∃ w' : World, w'.Reachable ∧
      w'.surroundings =
        ((c.operation process.service).run.solo p ⟨l, w.surroundings⟩).2.surroundings ∧
      ⟨w.nextTask p process.service c,
        .done ((c.operation process.service).run.solo p ⟨l, w.surroundings⟩).1⟩ ∈ w'.running := by
  have hbegun : (w.begin p process.service c).Reachable :=
    Relation.ReflTransGen.tail h (.call hp hc)
  let task := w.nextTask p process.service c
  have hrunning : (w.begin p process.service c).running[task.number]? = some ⟨task, task.plan⟩ :=
    List.getElem?_concat_length
  obtain ⟨w', hl, hw', hdone⟩ := exists_solo l hrunning
  exact ⟨w', Relation.ReflTransGen.trans hbegun hl, hw', List.mem_of_getElem? hdone⟩

end World

end Enrolment
