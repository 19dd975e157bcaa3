import Enrolment.Error
import Enrolment.Keyset

/-!
# The store

The store holds one record for each identity and one keyset for each key.
Records are made and replaced and never removed; a replacement succeeds only
while the record still has the version that the writer read, and raises it by
one.  A keyset that is stored stays for ever.

Two stores that answer `get?` and `keys?` alike cannot be told apart by these
operations, apart from the order of records in a listing by status.

## Main definitions

* `Store`, `Store.empty` — the store.
* `Store.get?`, `Store.keys?` — its contents.
* `Store.create`, `Store.put` — records made and replaced.
* `Store.ofSubscriber`, `Store.withStatus`, `Store.all` — listings.
* `Store.offerKeys` — store a keyset unless there is one.
-/

namespace Enrolment

/-- Records and keysets. -/
structure Store where
  /-- The records, in the order in which they were made. -/
  records : List Record
  /-- The keysets by their keys, in the order in which they were stored. -/
  keysets : List (String × Keyset)
  /-- There is one record for each identity. -/
  distinct : (records.map Record.identity).Nodup
  /-- There is one keyset for each key. -/
  distinctKeys : (keysets.map Prod.fst).Nodup

namespace Store

/-- Nothing is stored. -/
def empty : Store := ⟨[], [], List.nodup_nil, List.nodup_nil⟩

/-- The record of an identity. -/
def get? (s : Store) (identity : Identity) : Option Record :=
  s.records.find? (·.identity = identity)

theorem identity_of_get? {s : Store} {identity : Identity} {r : Record}
    (h : s.get? identity = some r) : r.identity = identity := by
  simpa using List.find?_some h

theorem get?_eq_none_iff {s : Store} {identity : Identity} :
    s.get? identity = none ↔ identity ∉ s.records.map Record.identity := by
  simp [get?, List.find?_eq_none]

/-- The record of an identity, or the answer that there is none. -/
def get (s : Store) (identity : Identity) : Except StoreError Record :=
  match s.get? identity with
  | some r => .ok r
  | none => .error (.notFound identity)

/-! ## Making records -/

/-- Add a record for an identity that has none. -/
def add (s : Store) (r : Record) (h : s.get? r.identity = none) : Store where
  records := s.records ++ [r]
  keysets := s.keysets
  distinct := by
    rw [List.map_append, List.nodup_append]
    refine ⟨s.distinct, by simp, ?_⟩
    intro i hi j hj hij
    simp only [List.map_cons, List.map_nil, List.mem_singleton] at hj
    exact get?_eq_none_iff.1 h (hj ▸ hij ▸ hi)
  distinctKeys := s.distinctKeys

/-- Store a new record with version one. -/
def create (s : Store) (r : Record) : Except StoreError Record × Store :=
  let stored := { r with version := 1 }
  if h : s.get? stored.identity = none then (.ok stored, s.add stored h)
  else (.error (.alreadyExists r.identity), s)

/-! ## Replacing records -/

/-- Put a record in the place of the one of its identity. -/
def set (s : Store) (r : Record) : Store where
  records := s.records.map fun old => if old.identity = r.identity then r else old
  keysets := s.keysets
  distinct := by
    have h : (s.records.map fun old => if old.identity = r.identity then r else old).map
        Record.identity = s.records.map Record.identity := by
      rw [List.map_map]
      refine List.map_congr_left fun old _ => ?_
      by_cases h : old.identity = r.identity <;> simp [h]
    rw [h]
    exact s.distinct
  distinctKeys := s.distinctKeys

/-- Replace a record that still has the expected version. -/
def put (s : Store) (r : Record) (expected : Nat) : Except StoreError Record × Store :=
  match s.get? r.identity with
  | none => (.error (.notFound r.identity), s)
  | some old =>
    if old.version = expected then
      let stored := { r with version := expected + 1 }
      (.ok stored, s.set stored)
    else (.error (.versionConflict expected old.version), s)

/-! ## Listings -/

/-- The records of a subscriber in the order of their keys. -/
def ofSubscriber (s : Store) (subscriberId : String) : List Record :=
  (s.records.filter (·.identity.subscriberId = subscriberId)).mergeSort
    fun a b => a.identity.keyId ≤ b.identity.keyId

/-- The records with a status, the oldest first. -/
def withStatus (s : Store) (status : Status) : List Record :=
  (s.records.filter (·.status = status)).mergeSort
    fun a b => a.createdAt.ordinal ≤ b.createdAt.ordinal

/-- The records in the order of their identities. -/
def all (s : Store) : List Record :=
  s.records.mergeSort fun a b => !b.identity.precedes a.identity

/-! ## Keysets -/

/-- The keyset of a key. -/
def keys? (s : Store) (keyId : String) : Option Keyset := s.keysets.lookup keyId

theorem keys?_eq_none_iff {s : Store} {keyId : String} :
    s.keys? keyId = none ↔ keyId ∉ s.keysets.map Prod.fst := by
  simp only [keys?, List.lookup_eq_none_iff, List.mem_map, not_exists, not_and, bne_iff_ne]
  exact ⟨fun h p hp hk => h p hp hk.symm, fun h p hp hk => h p hp hk.symm⟩

/-- Store a keyset for a key that has none. -/
def addKeys (s : Store) (keyId : String) (keys : Keyset) (h : s.keys? keyId = none) : Store where
  records := s.records
  keysets := s.keysets ++ [(keyId, keys)]
  distinct := s.distinct
  distinctKeys := by
    rw [List.map_append, List.nodup_append]
    refine ⟨s.distinctKeys, by simp, ?_⟩
    intro i hi j hj hij
    simp only [List.map_cons, List.map_nil, List.mem_singleton] at hj
    exact keys?_eq_none_iff.1 h (hj ▸ hij ▸ hi)

/-- Store a keyset unless the key has one; the one that is stored then. -/
def offerKeys (s : Store) (keyId : String) (keys : Keyset) : Keyset × Store :=
  if h : s.keys? keyId = none then (keys, s.addKeys keyId keys h)
  else ((s.keys? keyId).getD keys, s)

end Store

end Enrolment
