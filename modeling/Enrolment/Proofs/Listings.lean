import Enrolment.Proofs.Contents
import Enrolment.Proofs.Texts.Order

/-!
# Listings

Whatever a store is asked to make or to replace, its answers depend only on how
many writes succeeded before: a record is made while its identity has none, and
replaced by whoever expects as many writes as there were.  The record that is
found is the one that was written last, and its version counts the writes.

A listing shows the records that are found, and each of them once.  So every
record is in the listing of one status, wherever it has been before.

## Main definitions

* `Write`, `Write.carryOut`, `Write.answer` — what a store may be asked to write,
  and what it answers.
* `Store.after`, `successes` — the store after writes, and those that succeeded.
* `Store.Lists` — a listing shows the records with a property, each once.

## Main statements

* `Write.get?_carryOut` — what is found after a write.
* `Store.get?_after` — what is found after any writes.
* `Store.sorted_ofSubscriber`, `Store.lists_withStatuses` — the listings.
* `Store.listings` — what a store answers and shows after any writes.
-/

namespace Enrolment

/-! ## Writes -/

/-- What a store may be asked to write. -/
inductive Write
  /-- A new record. -/
  | create (r : Record)
  /-- A record in the place of one that still has the expected version. -/
  | put (r : Record) (expected : Nat)

namespace Write

variable {w : Write} {s : Store} {i : Identity} {n : Nat}

/-- The record that is given. -/
def record : Write → Record
  | create r | put r _ => r

/-- What a store answers, and the store after it. -/
def carryOut : Write → Store → Except StoreError Record × Store
  | create r, s => s.create r
  | put r expected, s => s.put r expected

/-- The answer after so many writes for the same identity. -/
def answer (n : Nat) : Write → Except StoreError Record
  | create r =>
    if n = 0 then .ok { r with version := 1 } else .error (.alreadyExists r.identity)
  | put r expected =>
    if n = 0 then .error (.notFound r.identity)
    else if n = expected then .ok { r with version := n + 1 }
    else .error (.versionConflict expected n)

/-- A write that succeeds stores what was given, at the next version. -/
theorem answer_cases (w : Write) (n : Nat) :
    w.answer n = .ok { w.record with version := n + 1 } ∨ ∃ e, w.answer n = .error e := by
  cases w with
  | create r =>
    by_cases hn : n = 0
    · subst hn
      exact .inl rfl
    · exact .inr ⟨_, if_neg hn⟩
  | put r expected =>
    rw [answer]
    by_cases hn : n = 0
    · exact .inr ⟨_, if_pos hn⟩
    rw [if_neg hn]
    by_cases hexpected : n = expected
    · exact .inl (if_pos hexpected)
    · exact .inr ⟨_, if_neg hexpected⟩

theorem carryOut_of_none (h : s.get? w.record.identity = none) :
    (w.carryOut s).1 = w.answer 0 := by
  cases w with
  | create r => exact Store.create_of_none h
  | put r expected => exact congrArg Prod.fst (Store.put_of_none h)

/-- The version of the stored record decides the answer. -/
theorem carryOut_of_some {old : Record} (h : s.get? w.record.identity = some old)
    (hv : old.version ≠ 0) : (w.carryOut s).1 = w.answer old.version := by
  cases w with
  | create r =>
    rw [answer, if_neg hv]
    exact congrArg Prod.fst (Store.create_of_some h)
  | put r expected =>
    rw [answer, if_neg hv]
    by_cases hexpected : old.version = expected
    · subst hexpected
      rw [if_pos rfl]
      exact Store.put_of_some h
    · rw [if_neg hexpected]
      exact congrArg Prod.fst (Store.put_of_ne h hexpected)

/-- The record that was answered is found after a write, and no other changes; a
write that fails changes none. -/
theorem get?_carryOut : (w.carryOut s).2.get? i =
    match (w.carryOut s).1 with
    | .ok r => if i = w.record.identity then some r else s.get? i
    | .error _ => s.get? i := by
  cases w with
  | create r =>
    rw [carryOut]
    cases hr : s.get? r.identity with
    | none =>
      rw [Store.create_of_none hr]
      exact Store.get?_create hr
    | some old => rw [Store.create_of_some hr]
  | put r expected =>
    rw [carryOut]
    cases hr : s.get? r.identity with
    | none => rw [Store.put_of_none hr]
    | some old =>
      by_cases hexpected : old.version = expected
      · subst hexpected
        rw [Store.put_of_some hr]
        exact Store.get?_put hr
      · rw [Store.put_of_ne hr hexpected]

end Write

/-! ## What is found -/

/-- The store after writes that an empty one was asked for, the latest first. -/
def Store.after : List Write → Store
  | [] => empty
  | w :: earlier => (w.carryOut (after earlier)).2

/-- The writes for an identity that succeeded, the latest first. -/
def successes (i : Identity) : List Write → List Write
  | [] => []
  | w :: earlier =>
    if w.record.identity = i ∧ (w.carryOut (Store.after earlier)).1.isOk then
      w :: successes i earlier
    else successes i earlier

/-- The record that writes leave, the latest first. -/
def lastRecord? (done : List Write) : Option Record :=
  done.head?.map fun w => { w.record with version := done.length }

/-- The number of writes that succeeded decides the answer to the next one. -/
theorem Write.carryOut_fst {w : Write} {s : Store} {done : List Write}
    (h : s.get? w.record.identity = lastRecord? done) :
    (w.carryOut s).1 = w.answer done.length := by
  cases done with
  | nil => exact carryOut_of_none h
  | cons last earlier => exact carryOut_of_some h (Nat.succ_ne_zero _)

namespace Store

variable {s : Store} {i : Identity} {past : List Write} {r : Record} {status : Status}
  {subscriberId : String}

theorem get_eq_ok_iff : s.get i = .ok r ↔ s.get? i = some r := by
  unfold get
  cases s.get? i <;> simp

/-- The record of the last write that succeeded is found, and its version counts
those that did. -/
theorem get?_after : (after past).get? i = lastRecord? (successes i past) := by
  induction past generalizing i with
  | nil => rfl
  | cons w earlier ih =>
    have hanswer : (w.carryOut (after earlier)).1 =
        w.answer (successes w.record.identity earlier).length := Write.carryOut_fst ih
    rw [after, Write.get?_carryOut, successes, hanswer]
    rcases w.answer_cases (successes w.record.identity earlier).length with hok | ⟨e, herror⟩
    · rw [hok]
      by_cases hi : i = w.record.identity
      · subst hi
        rw [if_pos ⟨rfl, rfl⟩]
        exact if_pos rfl
      · rw [if_neg fun h => hi h.1.symm]
        exact (if_neg hi).trans ih
    · rw [herror, if_neg fun h => Bool.noConfusion h.2]
      exact ih

/-! ## What is listed -/

/-- A listing shows the records with a property, each once. -/
structure Lists (s : Store) (p : Record → Prop) (rs : List Record) : Prop where
  /-- No identity is shown twice. -/
  nodup : (rs.map Record.identity).Nodup
  /-- Exactly the records that are found and have the property are shown. -/
  mem_iff : ∀ r, r ∈ rs ↔ s.get r.identity = .ok r ∧ p r

theorem lists_ofSubscriber :
    s.Lists (·.identity.subscriberId = subscriberId) (s.ofSubscriber subscriberId) where
  nodup := nodup_ofSubscriber
  mem_iff r := by rw [mem_ofSubscriber, get_eq_ok_iff]

theorem lists_withStatus : s.Lists (·.status = status) (s.withStatus status) where
  nodup := nodup_withStatus
  mem_iff r := by rw [mem_withStatus, get_eq_ok_iff]

/-- The records of a subscriber are listed in the order of their keys. -/
theorem sorted_ofSubscriber : (s.ofSubscriber subscriberId).Pairwise fun a b =>
    a.identity.keyId < b.identity.keyId := by
  have hsorted : (s.ofSubscriber subscriberId).Pairwise fun a b =>
      a.identity.keyId ≤ b.identity.keyId := by
    have h := @List.pairwise_mergeSort Record
      (fun a b => decide (a.identity.keyId ≤ b.identity.keyId))
      (fun a b c hab hbc => decide_eq_true
        (String.le_trans (of_decide_eq_true hab) (of_decide_eq_true hbc)))
      (fun a b => by simpa using String.le_total _ _)
      (s.records.filter (·.identity.subscriberId = subscriberId))
    simpa [ofSubscriber] using h
  have hdistinct : (s.ofSubscriber subscriberId).Pairwise fun a b => a.identity ≠ b.identity :=
    List.pairwise_map.1 nodup_ofSubscriber
  refine (hsorted.and hdistinct).imp_of_mem ?_
  rintro a b ha hb ⟨hle, hne⟩
  have hsame : a.identity.subscriberId = b.identity.subscriberId :=
    (mem_ofSubscriber.1 ha).2.trans (mem_ofSubscriber.1 hb).2.symm
  have hkey : a.identity.keyId ≠ b.identity.keyId := by
    intro hkey
    apply hne
    change (⟨a.identity.subscriberId, a.identity.keyId⟩ : Identity) = b.identity
    rw [hsame, hkey]
  exact Std.lt_of_le_of_ne hle hkey

/-- Every record is in the listing of one status. -/
theorem lists_withStatuses : s.Lists (fun _ => True) (Status.all.flatMap s.withStatus) where
  nodup := by
    rw [List.map_flatMap, List.nodup_flatMap]
    refine ⟨fun status _ => nodup_withStatus, ?_⟩
    have hdistinct : Status.all.Nodup := by decide
    refine hdistinct.imp ?_
    intro a b hab i ha hb
    obtain ⟨r, hr, rfl⟩ := mem_map_withStatus.1 ha
    obtain ⟨r', hr', rfl⟩ := mem_map_withStatus.1 hb
    obtain rfl : r = r' := Option.some.inj (hr.symm.trans hr')
    exact hab rfl
  mem_iff r := by
    rw [List.mem_flatMap, get_eq_ok_iff]
    constructor
    · rintro ⟨status, -, hr⟩
      exact ⟨(mem_withStatus.1 hr).1, trivial⟩
    · rintro ⟨hr, -⟩
      exact ⟨r.status, r.status.mem_all, mem_withStatus.2 ⟨hr, rfl⟩⟩

/-- **Listings.**  After any writes the next one is answered by how many for its
identity succeeded.  For each identity the record of the last of them is found, at
their number.  The records of a subscriber are listed in the order of the bytes of
their keys, those with a status the oldest first, and each record that is found is
in the listing of one status, once. -/
theorem listings (past : List Write) :
    (∀ w : Write, (w.carryOut (after past)).1 =
      w.answer (successes w.record.identity past).length) ∧
    (∀ i, (after past).get i = match successes i past with
      | [] => .error (.notFound i)
      | w :: earlier => .ok { w.record with version := earlier.length + 1 }) ∧
    (∀ subscriberId,
      (after past).Lists (·.identity.subscriberId = subscriberId)
        ((after past).ofSubscriber subscriberId) ∧
      ((after past).ofSubscriber subscriberId).Pairwise fun a b =>
        Text.bytesOf a.identity.keyId < Text.bytesOf b.identity.keyId) ∧
    (∀ status,
      (after past).Lists (·.status = status) ((after past).withStatus status) ∧
      ((after past).withStatus status).Pairwise fun a b =>
        a.createdAt.ordinal ≤ b.createdAt.ordinal) ∧
    (after past).Lists (fun _ => True) (Status.all.flatMap (after past).withStatus) := by
  refine ⟨fun w => Write.carryOut_fst get?_after, ?_, ?_, ?_, lists_withStatuses⟩
  · intro i
    rw [get, get?_after]
    cases successes i past <;> rfl
  · intro subscriberId
    exact ⟨lists_ofSubscriber, sorted_ofSubscriber.imp Text.bytesOf_lt_iff.2⟩
  · intro status
    exact ⟨lists_withStatus, pairwise_withStatus⟩

/-- The first write comes too early. -/
example :
    let record (key : String) : Record :=
      .fresh ⟨"acme.org", key⟩ "BPP" (.plain "https://acme.org" "retail") .epoch
    let past : List Write :=
      [.put (record "k2") 1, .create (record "k1"), .create (record "k2"), .put (record "k1") 0]
    ((after past).ofSubscriber "acme.org").map (fun r => (r.identity.keyId, r.version)) =
      [("k1", 1), ("k2", 2)] := by
  cbv

end Store

end Enrolment
