import Enrolment.Store
import Mathlib.Data.List.Perm.Basic
import Mathlib.Data.List.Nodup

/-!
# Contents of the store

What a store holds is told by `get?` and `keys?`.  Every operation of the store
is one equation through these two, after which the lists behind them are not
looked at again.

## Main statements

* `Store.get?_create`, `Store.get?_put` — the records after a write.
* `Store.keys?_offerKeys` — the keysets after an offer.
* `Store.mem_ofSubscriber`, `Store.mem_withStatus` — what the listings hold.
-/

namespace Enrolment.Store

variable {s : Store} {r : Record} {i : Identity} {keyId : String} {keys : Keyset}

/-! ## Records -/

@[simp] theorem get?_empty : empty.get? i = none := rfl

theorem get?_add (h : s.get? r.identity = none) :
    (s.add r h).get? i = if i = r.identity then some r else s.get? i := by
  simp only [get?, add, List.find?_append, List.find?_singleton]
  by_cases hi : i = r.identity
  · subst hi
    have hnone : s.records.find? (·.identity = r.identity) = none := h
    simp [hnone]
  · simp [hi, Ne.symm hi]

/-- Records are found by an identity that the replacement keeps. -/
private theorem find?_map_replace (old : List Record) :
    (old.map fun o => if o.identity = r.identity then r else o).find? (·.identity = i) =
      (old.find? (·.identity = i)).map fun o => if i = r.identity then r else o := by
  induction old with
  | nil => rfl
  | cons o rest ih =>
    by_cases ho : o.identity = r.identity
    · by_cases hi : r.identity = i
      · simp [ho, hi]
      · simp [ho, hi, ih]
    · by_cases hi : o.identity = i
      · subst hi
        simp [ho]
      · simp [ho, hi, ih]

theorem get?_set :
    (s.set r).get? i = (s.get? i).map fun o => if i = r.identity then r else o :=
  find?_map_replace s.records

/-- A record that is made is found at version one, and no other changes. -/
theorem get?_create (h : s.get? r.identity = none) :
    (s.create r).2.get? i = if i = r.identity then some { r with version := 1 } else s.get? i := by
  have hs : (s.create r).2 = s.add { r with version := 1 } h := by simp [create, h]
  rw [hs, get?_add]

theorem create_of_some {old : Record} (h : s.get? r.identity = some old) :
    s.create r = (.error (.alreadyExists r.identity), s) := by
  simp [create, h]

theorem create_of_none (h : s.get? r.identity = none) :
    (s.create r).1 = .ok { r with version := 1 } := by
  simp [create, h]

/-- A record that is replaced is found at the next version, and no other
changes. -/
theorem get?_put {old : Record} (h : s.get? r.identity = some old) :
    (s.put r old.version).2.get? i =
      if i = r.identity then some { r with version := old.version + 1 } else s.get? i := by
  simp only [put, h, if_true, get?_set]
  by_cases hi : i = r.identity
  · subst hi
    simp [h]
  · simp [hi]

theorem put_of_some {old : Record} (h : s.get? r.identity = some old) :
    (s.put r old.version).1 = .ok { r with version := old.version + 1 } := by
  simp [put, h]

theorem put_of_ne {old : Record} {expected : Nat} (h : s.get? r.identity = some old)
    (hv : old.version ≠ expected) :
    s.put r expected = (.error (.versionConflict expected old.version), s) := by
  simp [put, h, hv]

theorem put_of_none {expected : Nat} (h : s.get? r.identity = none) :
    s.put r expected = (.error (.notFound r.identity), s) := by
  simp [put, h]

@[simp] theorem keys?_create : (s.create r).2.keys? keyId = s.keys? keyId := by
  cases h : s.get? r.identity with
  | none => simp only [create, h, dif_pos]; rfl
  | some old => rw [create_of_some h]

@[simp] theorem keys?_put {expected : Nat} : (s.put r expected).2.keys? keyId = s.keys? keyId := by
  unfold put
  split
  · rfl
  · split <;> rfl

/-! ## Keysets -/

@[simp] theorem keys?_empty : empty.keys? keyId = none := rfl

/-- The first keyset that is offered for a key is the one that it has. -/
theorem keys?_offerKeys {k : String} :
    (s.offerKeys keyId keys).2.keys? k =
      (s.keys? k).or (if k = keyId then some keys else none) := by
  unfold offerKeys
  split
  · rename_i h
    have hk : s.keysets.lookup keyId = none := h
    by_cases hkk : k = keyId
    · subst hkk
      simp [keys?, addKeys, List.lookup_append, hk]
    · have hbeq : (k == keyId) = false := by simpa using hkk
      simp [keys?, addKeys, List.lookup_append, List.lookup_cons, hkk, hbeq]
  · rename_i h
    by_cases hkk : k = keyId
    · subst hkk
      obtain ⟨ks, hks⟩ := Option.ne_none_iff_exists'.1 h
      simp [hks]
    · simp [hkk]

theorem offerKeys_fst : (s.offerKeys keyId keys).1 = (s.keys? keyId).getD keys := by
  unfold offerKeys
  split
  · rename_i h
    simp [h]
  · rfl

@[simp] theorem get?_offerKeys : (s.offerKeys keyId keys).2.get? i = s.get? i := by
  unfold offerKeys
  split <;> rfl

/-! ## Listings -/

theorem mem_records_iff : r ∈ s.records ↔ s.get? r.identity = some r := by
  constructor
  · intro h
    have hsome : (s.get? r.identity).isSome := by
      simp only [get?, List.find?_isSome]
      exact ⟨r, h, by simp⟩
    obtain ⟨o, ho⟩ := Option.isSome_iff_exists.1 hsome
    have hmem : o ∈ s.records := List.mem_of_find?_eq_some ho
    have ho' : o = r := List.inj_on_of_nodup_map s.distinct hmem h (identity_of_get? ho)
    rw [ho, ho']
  · intro h
    exact List.mem_of_find?_eq_some h

theorem mem_ofSubscriber {subscriberId : String} :
    r ∈ s.ofSubscriber subscriberId ↔
      s.get? r.identity = some r ∧ r.identity.subscriberId = subscriberId := by
  simp [ofSubscriber, List.mem_mergeSort, mem_records_iff]

theorem mem_withStatus {status : Status} :
    r ∈ s.withStatus status ↔ s.get? r.identity = some r ∧ r.status = status := by
  simp [withStatus, List.mem_mergeSort, mem_records_iff]

/-- No listing shows a record twice. -/
theorem nodup_listing {p : Record → Bool} {le : Record → Record → Bool} :
    (((s.records.filter p).mergeSort le).map Record.identity).Nodup := by
  refine ((List.mergeSort_perm _ _).map _).nodup_iff.2 ?_
  exact s.distinct.sublist (List.filter_sublist.map _)

theorem nodup_ofSubscriber {subscriberId : String} :
    ((s.ofSubscriber subscriberId).map Record.identity).Nodup := nodup_listing

theorem nodup_withStatus {status : Status} : ((s.withStatus status).map Record.identity).Nodup :=
  nodup_listing

/-- The oldest records are listed first. -/
theorem pairwise_withStatus {status : Status} :
    (s.withStatus status).Pairwise fun a b => a.createdAt.ordinal ≤ b.createdAt.ordinal := by
  have h := @List.pairwise_mergeSort Record
    (fun a b => decide (a.createdAt.ordinal ≤ b.createdAt.ordinal)) (by simp; omega)
    (by simp; omega) (s.records.filter (·.status = status))
  simpa [withStatus] using h

theorem mem_map_withStatus {status : Status} :
    i ∈ (s.withStatus status).map Record.identity ↔ ∃ r, s.get? i = some r ∧ r.status = status := by
  simp only [List.mem_map, mem_withStatus]
  constructor
  · rintro ⟨r, ⟨hr, hs⟩, rfl⟩
    exact ⟨r, hr, hs⟩
  · rintro ⟨r, hr, hs⟩
    obtain rfl := identity_of_get? hr
    exact ⟨r, ⟨hr, hs⟩, rfl⟩

end Enrolment.Store
