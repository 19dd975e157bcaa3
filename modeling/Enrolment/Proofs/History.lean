import Enrolment.Proofs.Contents
import Enrolment.Proofs.World
import Mathlib.Data.List.Basic

/-!
# What has happened

What the store holds is a function of what has happened: the record of an
identity is the one written last, and the keyset of a key is the one offered
first.  So an operation can be followed through what happened alone, without the
store and the other tasks.

## Main definitions

* `writes`, `recordAfter` — the records of an identity, and the last one.
* `keysAfter` — the keyset of a key.
* `TrueAfter` — what may be answered after what has happened.
* `Surroundings.Agree` — the store and the processes are as what has happened
  left them.

## Main statements

* `Surroundings.Agree.trueAfter` — what the surroundings answer is true.
* `Surroundings.Agree.answered` — they still agree after an answer.
-/

namespace Enrolment

/-! ## Records and keysets -/

/-- The records of an identity that were written, the latest first. -/
def writes (i : Identity) (past : List Occurrence) : List Record :=
  (written past).filter (·.identity = i)

/-- The record of an identity after what has happened. -/
def recordAfter (i : Identity) (past : List Occurrence) : Option Record := (writes i past).head?

/-- The keyset that was stored for a key after it was offered one. -/
def Occurrence.offered? (keyId : String) : Occurrence → Option Keyset
  | .answered _ (.offerKeys k _) reply => if k = keyId then reply.toOption else none
  | _ => none

/-- The keyset of a key after what has happened: the first one stays. -/
def keysAfter (keyId : String) : List Occurrence → Option Keyset
  | [] => none
  | o :: earlier => (keysAfter keyId earlier).or (o.offered? keyId)

variable {i : Identity} {past earlier later : List Occurrence} {o : Occurrence} {r : Record}
  {keyId : String} {keys : Keyset}

@[simp] theorem writes_nil : writes i [] = [] := rfl

theorem writes_cons_of_none (h : o.written? = none) : writes i (o :: past) = writes i past := by
  simp [writes, written, h]

theorem writes_cons_of_some (h : o.written? = some r) :
    writes i (o :: past) = if r.identity = i then r :: writes i past else writes i past := by
  simp [writes, written, h, List.filter_cons]

theorem mem_writes_iff : r ∈ writes i past ↔ r ∈ written past ∧ r.identity = i := by
  simp [writes]

theorem identity_of_mem_writes (h : r ∈ writes i past) : r.identity = i := (mem_writes_iff.1 h).2

theorem writes_append : writes i (later ++ earlier) = writes i later ++ writes i earlier := by
  simp [writes, written]

theorem written_mono (h : earlier <:+ past) (hr : r ∈ written earlier) : r ∈ written past := by
  obtain ⟨later, rfl⟩ := h
  simp only [written, List.filterMap_append, List.mem_append]
  exact .inr hr

theorem writes_mono (h : earlier <:+ past) (hr : r ∈ writes i earlier) : r ∈ writes i past :=
  mem_writes_iff.2 ⟨written_mono h (mem_writes_iff.1 hr).1, identity_of_mem_writes hr⟩

@[simp] theorem recordAfter_nil : recordAfter i [] = none := rfl

theorem recordAfter_cons_of_none (h : o.written? = none) :
    recordAfter i (o :: past) = recordAfter i past := by
  rw [recordAfter, writes_cons_of_none h, recordAfter]

theorem recordAfter_cons_of_some (h : o.written? = some r) :
    recordAfter i (o :: past) = if i = r.identity then some r else recordAfter i past := by
  rw [recordAfter, writes_cons_of_some h]
  by_cases hi : r.identity = i
  · simp [hi]
  · simp [hi, Ne.symm hi, recordAfter]

theorem mem_writes_of_recordAfter (h : recordAfter i past = some r) : r ∈ writes i past :=
  List.mem_of_mem_head? h

theorem identity_of_recordAfter (h : recordAfter i past = some r) : r.identity = i :=
  identity_of_mem_writes (mem_writes_of_recordAfter h)

theorem recordAfter_eq_none_iff : recordAfter i past = none ↔ writes i past = [] :=
  List.head?_eq_none_iff

/-- A record that was written is there for ever, as itself or as another of its
identity. -/
theorem recordAfter_ne_none_mono (h : earlier <:+ past) (hr : recordAfter i earlier ≠ none) :
    recordAfter i past ≠ none := by
  obtain ⟨later, rfl⟩ := h
  rw [ne_eq, recordAfter_eq_none_iff] at hr ⊢
  rw [writes_append]
  exact fun hnil => hr (List.append_eq_nil_iff.1 hnil).2

@[simp] theorem keysAfter_nil : keysAfter keyId [] = none := rfl

theorem keysAfter_cons_of_none (h : o.offered? keyId = none) :
    keysAfter keyId (o :: past) = keysAfter keyId past := by
  simp [keysAfter, h]

/-- A keyset that is stored stays for ever. -/
theorem keysAfter_mono (h : earlier <:+ past) (hk : keysAfter keyId earlier = some keys) :
    keysAfter keyId past = some keys := by
  obtain ⟨later, rfl⟩ := h
  induction later with
  | nil => exact hk
  | cons o later ih => simp [keysAfter, ih]

/-! ## True answers -/

/-- What may be answered after what has happened. -/
def TrueAfter (past : List Occurrence) : (a : Ask) → a.Reply → Prop
  | .lookup i, reply =>
    (recordAfter i past = none ∧ reply = .error (.notFound i)) ∨
      ∃ r, recordAfter i past = some r ∧ reply = .ok r
  | .insert r, reply =>
    (recordAfter r.identity past = none ∧ reply = .ok { r with version := 1 }) ∨
      (recordAfter r.identity past ≠ none ∧ reply = .error (.alreadyExists r.identity))
  | .replace r expected, reply =>
    (recordAfter r.identity past = none ∧ reply = .error (.notFound r.identity)) ∨
      ∃ old, recordAfter r.identity past = some old ∧
        ((old.version = expected ∧ reply = .ok { r with version := expected + 1 }) ∨
          (old.version ≠ expected ∧ reply = .error (.versionConflict expected old.version)))
  | .ofSubscriber subscriberId, reply =>
    ∃ rs, reply = .ok rs ∧ ∀ r, r ∈ rs ↔
      recordAfter r.identity past = some r ∧ r.identity.subscriberId = subscriberId
  | .withStatus status, reply =>
    ∃ rs, reply = .ok rs ∧ ∀ r, r ∈ rs ↔
      recordAfter r.identity past = some r ∧ r.status = status
  | .storedKeys keyId, reply => reply = .ok (keysAfter keyId past)
  | .offerKeys keyId keys, reply => reply = .ok ((keysAfter keyId past).getD keys)
  | .keysAtHand keyId, reply => ∀ keys, reply = some keys → keysAfter keyId past = some keys
  | .chance bound, reply => reply ≤ bound
  | .keepKeys .., _ | .freshKeys, _ | .freshName, _ | .clock, _ | .pause _, _ | .call .., _
  | .schedule .., _ => True

namespace Surroundings

variable {s s' : Surroundings} {p : Nat} {ask : Ask} {reply : ask.Reply}

/-- The store holds what was written and offered, and processes have at hand
only what is stored. -/
structure Agree (s : Surroundings) (past : List Occurrence) : Prop where
  /-- The records are those that were written last. -/
  records : ∀ i, s.store.get? i = recordAfter i past
  /-- The keysets are those that were offered first. -/
  keys : ∀ keyId, s.store.keys? keyId = keysAfter keyId past
  /-- Keysets at hand are stored. -/
  atHand : ∀ process ∈ s.processes, ∀ keyId keys,
    process.atHand.lookup keyId = some keys → keysAfter keyId past = some keys

theorem agree_empty : Agree ⟨.empty, []⟩ [] := ⟨fun _ => rfl, fun _ => rfl, by simp⟩

/-- What the surroundings answer is true. -/
theorem Agree.trueAfter (h : s.Agree past) (ha : s.Answers p ask reply s') :
    TrueAfter past ask reply := by
  cases ask with
  | lookup i =>
    obtain ⟨rfl, -⟩ := ha
    simp only [TrueAfter, Store.get, h.records]
    cases recordAfter i past <;> simp
  | insert r =>
    obtain ⟨rfl, -⟩ := ha
    cases hr : s.store.get? r.identity with
    | none => exact .inl ⟨h.records _ ▸ hr, Store.create_of_none hr⟩
    | some old =>
      refine .inr ⟨?_, by rw [Store.create_of_some hr]⟩
      rw [← h.records, hr]
      simp
  | replace r expected =>
    obtain ⟨rfl, -⟩ := ha
    cases hr : s.store.get? r.identity with
    | none => exact .inl ⟨h.records _ ▸ hr, by rw [Store.put_of_none hr]⟩
    | some old =>
      refine .inr ⟨old, h.records _ ▸ hr, ?_⟩
      by_cases hv : old.version = expected
      · subst hv
        exact .inl ⟨rfl, Store.put_of_some hr⟩
      · exact .inr ⟨hv, by rw [Store.put_of_ne hr hv]⟩
  | ofSubscriber subscriberId =>
    refine ⟨_, ha.1, ?_⟩
    intro r
    rw [Store.mem_ofSubscriber, h.records]
  | withStatus status =>
    obtain ⟨⟨rs, hrs, hperm, -⟩, -⟩ := ha
    refine ⟨rs, hrs, ?_⟩
    intro r
    rw [hperm.mem_iff, Store.mem_withStatus, h.records]
  | storedKeys keyId =>
    obtain ⟨rfl, -⟩ := ha
    simp only [TrueAfter, h.keys]
  | offerKeys keyId keys =>
    obtain ⟨rfl, -⟩ := ha
    simp only [TrueAfter, Store.offerKeys_fst, h.keys]
  | keysAtHand keyId =>
    intro keys hk
    obtain ⟨rfl, -⟩ := ha
    obtain ⟨process, hp, hl⟩ := Option.bind_eq_some_iff.1 hk
    exact h.atHand process (List.mem_of_getElem? hp) keyId keys hl
  | chance bound => exact ha.1
  | keepKeys | freshKeys | freshName | clock | pause | call | schedule => exact trivial

/-- The store still holds what was written and offered after an answer that
changes nothing. -/
theorem Agree.kept (h : s.Agree past) (hw : o.written? = none)
    (ho : ∀ keyId, o.offered? keyId = none) : s.Agree (o :: past) where
  records i := by rw [recordAfter_cons_of_none hw, h.records]
  keys keyId := by rw [keysAfter_cons_of_none (ho keyId), h.keys]
  atHand process hp keyId keys hl := by
    rw [keysAfter_cons_of_none (ho keyId)]
    exact h.atHand process hp keyId keys hl

/-- Keysets at hand stay stored. -/
private theorem Agree.atHand_cons (h : s.Agree past) :
    ∀ process ∈ s.processes, ∀ keyId keys,
      process.atHand.lookup keyId = some keys → keysAfter keyId (o :: past) = some keys :=
  fun process hp keyId keys hl =>
    keysAfter_mono (List.suffix_cons o past) (h.atHand process hp keyId keys hl)

/-- The store holds a record that was written in it. -/
private theorem Agree.wrote {new : Record} {store : Store} (h : s.Agree past)
    (hw : o.written? = some new) (ho : ∀ keyId, o.offered? keyId = none)
    (hget : ∀ i, store.get? i = if i = new.identity then some new else s.store.get? i)
    (hkeys : ∀ keyId, store.keys? keyId = s.store.keys? keyId) :
    Agree { s with store := store } (o :: past) where
  records i := by rw [hget, recordAfter_cons_of_some hw, h.records]
  keys keyId := by rw [hkeys, keysAfter_cons_of_none (ho keyId), h.keys]
  atHand := h.atHand_cons

/-- What is at hand after a keyset is kept was at hand before, or it is that
keyset. -/
theorem lookup_keep {process : Process} {k : String} {ks : Keyset}
    (hp : process ∈ (s.keep p keyId keys).processes) (hl : process.atHand.lookup k = some ks) :
    (k = keyId ∧ ks = keys) ∨ ∃ old ∈ s.processes, old.atHand.lookup k = some ks := by
  obtain ⟨n, hn⟩ := List.getElem?_of_mem hp
  rw [Surroundings.keep, List.getElem?_modify] at hn
  obtain ⟨old, hold, rfl⟩ := Option.map_eq_some_iff.1 hn
  have hmem : old ∈ s.processes := List.mem_of_getElem? hold
  by_cases hn' : p = n
  · by_cases hkk : k = keyId
    · subst hkk
      exact .inl ⟨rfl, by simpa [hn', eq_comm] using hl⟩
    · have hbeq : (k == keyId) = false := by simpa using hkk
      exact .inr ⟨old, hmem, by simpa [hn', List.lookup_cons, hbeq] using hl⟩
  · exact .inr ⟨old, hmem, by simpa [hn'] using hl⟩

/-- A process may keep a keyset at hand that is stored. -/
private theorem Agree.keep (h : s.Agree past) (p : Nat) (hk : keysAfter keyId past = some keys) :
    (s.keep p keyId keys).Agree past := by
  refine ⟨h.records, h.keys, ?_⟩
  intro process hp k ks hl
  rcases lookup_keep hp hl with ⟨rfl, rfl⟩ | ⟨old, hmem, hold⟩
  · exact hk
  · exact h.atHand old hmem k ks hold

/-- The surroundings still agree after an answer, as long as only keysets that
are stored are kept at hand. -/
theorem Agree.answered (h : s.Agree past) (task : Task) (ha : s.Answers p ask reply s')
    (hk : ∀ keyId keys, ask = .keepKeys keyId keys → keysAfter keyId past = some keys) :
    s'.Agree (.answered task ask reply :: past) := by
  cases ask with
  | lookup | ofSubscriber | withStatus | storedKeys | keysAtHand | chance =>
    obtain ⟨-, rfl⟩ := ha
    exact h.kept rfl fun _ => rfl
  | freshKeys | freshName | clock | pause | call | schedule =>
    obtain rfl := ha
    exact h.kept rfl fun _ => rfl
  | keepKeys keyId keys =>
    obtain rfl := ha
    exact (h.keep p (hk keyId keys rfl)).kept rfl fun _ => rfl
  | insert r =>
    obtain ⟨rfl, rfl⟩ := ha
    cases hr : s.store.get? r.identity with
    | none =>
      have hw : (Occurrence.answered task (.insert r) (s.store.create r).1).written? =
          some { r with version := 1 } := by
        simp [Occurrence.written?, Occurrence.stored?, Store.create_of_none hr, Except.toOption]
      exact h.wrote hw (fun _ => rfl) (fun _ => Store.get?_create hr) fun _ => Store.keys?_create
    | some old =>
      rw [Store.create_of_some hr]
      exact h.kept rfl fun _ => rfl
  | replace r expected =>
    obtain ⟨rfl, rfl⟩ := ha
    cases hr : s.store.get? r.identity with
    | none =>
      rw [Store.put_of_none hr]
      exact h.kept rfl fun _ => rfl
    | some old =>
      by_cases hv : old.version = expected
      · subst hv
        have hw : (Occurrence.answered task (.replace r old.version)
            (s.store.put r old.version).1).written? =
              some { r with version := old.version + 1 } := by
          simp [Occurrence.written?, Occurrence.stored?, Store.put_of_some hr, Except.toOption]
        exact h.wrote hw (fun _ => rfl) (fun _ => Store.get?_put hr) fun _ => Store.keys?_put
      · rw [Store.put_of_ne hr hv]
        exact h.kept rfl fun _ => rfl
  | offerKeys keyId keys =>
    obtain ⟨rfl, rfl⟩ := ha
    refine ⟨?_, ?_, h.atHand_cons⟩
    · intro i
      rw [recordAfter_cons_of_none rfl, Store.get?_offerKeys, h.records]
    · intro k
      rw [Store.keys?_offerKeys, keysAfter, h.keys, Store.offerKeys_fst, h.keys]
      by_cases hkk : keyId = k
      · subst hkk
        cases keysAfter keyId past <;> simp [Occurrence.offered?, Except.toOption]
      · simp [Occurrence.offered?, hkk, Ne.symm hkk]

end Surroundings

end Enrolment
