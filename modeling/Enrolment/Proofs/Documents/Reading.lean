import Enrolment.Proofs.Documents.Values

/-!
# Values that are read back

A value that fits is read back as itself: the objects of a reader are in order,
so that none of their members moves, and its containers are not nested deeper
than a reader enters.  Whatever a reader makes of a document fits.

A number is written alone in a document, or among others; if it is read back in
the first case, it is in the second.

## Main definitions

* `Value.Fits` — what a reader may make of a tree.
* `Builder.Grown` — a tree that is no single token.
* `Number.isReadBack` — a number is read back from a document of its own.

## Main statements

* `fits_of_value` — what is read fits.
* `value_tree` — what fits is read back.
* `Number.ReadBack.of_isReadBack` — it is read back wherever it stands.
-/

namespace Enrolment.Json

namespace Value

variable {name : String} {v : Value} {ms ns : List (String × Value)} {items : List Value}
  {depth k : Nat}

/-! ## Values that fit -/

theorem nestingItems_le_iff : nestingItems items ≤ k ↔ ∀ v ∈ items, v.nesting ≤ k := by
  induction items with
  | nil => simp [nestingItems]
  | cons v items ih => simp [nestingItems, ih]

theorem nestingMembers_le_iff : nestingMembers ms ≤ k ↔ ∀ m ∈ ms, m.2.nesting ≤ k := by
  induction ms with
  | nil => simp [nestingMembers]
  | cons m ms ih => simp only [nestingMembers, Nat.max_le, ih, List.forall_mem_cons]

theorem sortedItems_iff : SortedItems items ↔ ∀ v ∈ items, v.Sorted := by
  induction items with
  | nil => simp [SortedItems]
  | cons v items ih => simp [SortedItems, ih]

theorem sortedMembers_iff : SortedMembers ms ↔ ∀ m ∈ ms, m.2.Sorted := by
  induction ms with
  | nil => simp [SortedMembers]
  | cons m ms ih => simp only [SortedMembers, ih, List.forall_mem_cons]

/-- What a reader may make of a tree that lies inside some open containers: the
objects are in order, and the containers are not nested too deep. -/
structure Fits (depth : Nat) (v : Value) : Prop where
  /-- The members of its objects are in ascending order. -/
  sorted : v.Sorted
  /-- Its containers are not nested too deep. -/
  nesting_le : depth + v.nesting ≤ maxDepth

theorem fits_array_iff :
    (array items).Fits depth ↔ depth < maxDepth ∧ ∀ v ∈ items, v.Fits (depth + 1) := by
  constructor
  · rintro ⟨hs, hn⟩
    rw [Sorted, sortedItems_iff] at hs
    rw [nesting] at hn
    refine ⟨by omega, fun v hv => ⟨hs v hv, ?_⟩⟩
    have hv' := nestingItems_le_iff.1 (Nat.le_refl _) v hv
    omega
  · rintro ⟨hd, h⟩
    refine ⟨by rw [Sorted, sortedItems_iff]; exact fun v hv => (h v hv).sorted, ?_⟩
    have hn : nestingItems items ≤ maxDepth - (depth + 1) := nestingItems_le_iff.2 fun v hv => by
      have := (h v hv).nesting_le
      omega
    rw [nesting]
    omega

theorem fits_object_iff : (object ms).Fits depth ↔
    depth < maxDepth ∧ (ms.map Prod.fst).Pairwise (· < ·) ∧ ∀ m ∈ ms, m.2.Fits (depth + 1) := by
  constructor
  · rintro ⟨hs, hn⟩
    rw [Sorted, sortedMembers_iff] at hs
    rw [nesting] at hn
    refine ⟨by omega, hs.1, fun m hm => ⟨hs.2 m hm, ?_⟩⟩
    have hm' := nestingMembers_le_iff.1 (Nat.le_refl _) m hm
    omega
  · rintro ⟨hd, hp, h⟩
    refine ⟨by rw [Sorted, sortedMembers_iff]; exact ⟨hp, fun m hm => (h m hm).sorted⟩, ?_⟩
    have hn : nestingMembers ms ≤ maxDepth - (depth + 1) := nestingMembers_le_iff.2 fun m hm => by
      have := (h m hm).nesting_le
      omega
    rw [nesting]
    omega

/-! ## Objects in order -/

/-- A member whose name comes last is put last. -/
theorem insertMember_of_last (h : ∀ m ∈ ms, m.1 < name) :
    insertMember name v ms = ms ++ [(name, v)] := by
  induction ms with
  | nil => rfl
  | cons m ms ih =>
    have hm : m.1 < name := h m List.mem_cons_self
    rw [insertMember, if_neg (String.lt_asymm hm), if_neg (String.ne_of_lt hm).symm,
      ih fun m hm => h m (List.mem_cons_of_mem _ hm)]
    rfl

/-- Members in ascending order are the members of the object. -/
theorem objectOf_of_sorted (h : (ms.map Prod.fst).Pairwise (· < ·)) : objectOf ms = .object ms := by
  have honto (before : List (String × Value)) (h : ((before ++ ms).map Prod.fst).Pairwise (· < ·)) :
      ms.foldl (fun ms m => insertMember m.1 m.2 ms) before = before ++ ms := by
    clear ‹(ms.map Prod.fst).Pairwise (· < ·)›
    induction ms generalizing before with
    | nil => simp
    | cons m ms ih =>
      have hlast : ∀ n ∈ before, n.1 < m.1 := by
        simp only [List.map_append, List.pairwise_append] at h
        exact fun n hn => h.2.2 n.1 (List.mem_map_of_mem hn) m.1 (by simp)
      rw [List.foldl_cons, insertMember_of_last hlast, ih _ (by simpa using h)]
      simp
  rw [objectOf, honto [] h, List.nil_append]

/-- Only the new member is added. -/
theorem mem_insertMember {m : String × Value} (h : m ∈ insertMember name v ms) :
    m = (name, v) ∨ m ∈ ms := by
  induction ms with
  | nil => exact .inl (List.mem_singleton.1 h)
  | cons n ms ih =>
    rw [insertMember] at h
    split at h
    · exact List.mem_cons.1 h
    split at h
    · exact (List.mem_cons.1 h).imp_right (List.mem_cons_of_mem _)
    · rcases List.mem_cons.1 h with rfl | h
      · exact .inr List.mem_cons_self
      · exact (ih h).imp_right (List.mem_cons_of_mem _)

/-- Members stay in ascending order when another one is put among them. -/
theorem pairwise_insertMember (h : (ms.map Prod.fst).Pairwise (· < ·)) :
    ((insertMember name v ms).map Prod.fst).Pairwise (· < ·) := by
  rw [List.pairwise_map] at h ⊢
  induction ms with
  | nil => simp [insertMember]
  | cons m ms ih =>
    obtain ⟨hm, hms⟩ := List.pairwise_cons.1 h
    rw [insertMember]
    split
    · rename_i hlt
      refine List.pairwise_cons.2 ⟨fun n hn => ?_, h⟩
      rcases List.mem_cons.1 hn with rfl | hn
      · exact hlt
      · exact String.lt_trans hlt (hm n hn)
    split
    · rename_i heq
      exact List.pairwise_cons.2 ⟨fun n hn => heq ▸ hm n hn, hms⟩
    · rename_i hlt hne
      refine List.pairwise_cons.2 ⟨fun n hn => ?_, ih hms⟩
      rcases mem_insertMember hn with rfl | hn
      · exact Std.lt_of_le_of_ne hlt fun h => hne h.symm
      · exact hm n hn

/-- An object has its members in ascending order, and no others than were read. -/
theorem objectOf_eq (ms : List (String × Value)) : ∃ ns, objectOf ms = .object ns ∧
    (ns.map Prod.fst).Pairwise (· < ·) ∧ ∀ n ∈ ns, n ∈ ms := by
  have honto (before : List (String × Value)) (h : (before.map Prod.fst).Pairwise (· < ·)) :
      ((ms.foldl (fun ms m => insertMember m.1 m.2 ms) before).map Prod.fst).Pairwise (· < ·) ∧
        ∀ n ∈ ms.foldl (fun ms m => insertMember m.1 m.2 ms) before, n ∈ before ∨ n ∈ ms := by
    induction ms generalizing before with
    | nil => exact ⟨h, fun n hn => .inl hn⟩
    | cons m ms ih =>
      obtain ⟨hsorted, hmem⟩ := ih _ (pairwise_insertMember h)
      refine ⟨hsorted, fun n hn => ?_⟩
      rcases hmem n hn with hn | hn
      · rcases mem_insertMember hn with rfl | hn
        · exact .inr List.mem_cons_self
        · exact .inl hn
      · exact .inr (List.mem_cons_of_mem _ hn)
  obtain ⟨hsorted, hmem⟩ := honto [] .nil
  exact ⟨_, rfl, hsorted, fun n hn => (hmem n hn).resolve_left List.not_mem_nil⟩

end Value

open Value

/-! ## What is read -/

/-- An array is read from its items. -/
theorem exists_of_value_array {depth : Nat} {items : List Tree} {closed : Bool} {v : Value}
    (h : value depth (.array items closed) = .ok v) : depth < maxDepth ∧ closed = true ∧
      ∃ vs, itemValues (depth + 1) [] items = .ok vs ∧ v = .array vs := by
  rw [value] at h
  split at h
  · rename_i hd
    cases hvs : itemValues (depth + 1) [] items with
    | error e => simp [hvs] at h
    | ok vs =>
      simp only [hvs] at h
      split at h <;> cases h
      exact ⟨hd, ‹_›, vs, rfl, rfl⟩
  · cases h

/-- An object is read from its members. -/
theorem exists_of_value_object {depth : Nat} {members : List (Option String × Tree)}
    {closed : Bool} {v : Value} (h : value depth (.object members closed) = .ok v) :
    depth < maxDepth ∧ closed = true ∧
      ∃ ms, memberValues (depth + 1) [] members = .ok ms ∧ v = objectOf ms := by
  rw [value] at h
  split at h
  · rename_i hd
    cases hms : memberValues (depth + 1) [] members with
    | error e => simp [hms] at h
    | ok ms =>
      simp only [hms] at h
      split at h <;> cases h
      exact ⟨hd, ‹_›, ms, rfl, rfl⟩
  · cases h

mutual

/-- What is read fits. -/
theorem fits_of_value : (t : Tree) → {depth : Nat} → {v : Value} → depth ≤ maxDepth →
    value depth t = .ok v → v.Fits depth
  | .null, _, _, hd, h => by cases h; exact ⟨trivial, hd⟩
  | .bool _, _, _, hd, h => by cases h; exact ⟨trivial, hd⟩
  | .text (some _), _, _, hd, h => by cases h; exact ⟨trivial, hd⟩
  | .numeral n, _, _, hd, h => by
    rw [value] at h
    split at h
    · cases h; exact ⟨trivial, hd⟩
    · cases h
  | .array items closed, _, _, _, h => by
    obtain ⟨hd, -, vs, hvs, rfl⟩ := exists_of_value_array h
    exact fits_array_iff.2 ⟨hd, fits_of_itemValues items hd (by simp) hvs⟩
  | .object members closed, _, _, _, h => by
    obtain ⟨hd, -, ms, hms, rfl⟩ := exists_of_value_object h
    obtain ⟨ns, hns, hsorted, hmem⟩ := objectOf_eq ms
    rw [hns, fits_object_iff]
    exact ⟨hd, hsorted, fun n hn => fits_of_memberValues members hd (by simp) hms n (hmem n hn)⟩

theorem fits_of_itemValues : (ts : List Tree) → {depth : Nat} → {read vs : List Value} →
    depth ≤ maxDepth → (∀ v ∈ read, v.Fits depth) → itemValues depth read ts = .ok vs →
      ∀ v ∈ vs, v.Fits depth
  | [], _, _, _, _, hread, h => by
    cases h
    exact fun v hv => hread v (List.mem_reverse.1 hv)
  | t :: ts, depth, read, vs, hd, hread, h => by
    rw [itemValues] at h
    cases hv : value depth t with
    | error e => simp [hv] at h
    | ok v =>
      simp only [hv] at h
      refine fits_of_itemValues ts hd ?_ h
      exact List.forall_mem_cons.2 ⟨fits_of_value t hd hv, hread⟩

theorem fits_of_memberValues : (ts : List (Option String × Tree)) → {depth : Nat} →
    {read ms : List (String × Value)} → depth ≤ maxDepth → (∀ m ∈ read, m.2.Fits depth) →
      memberValues depth read ts = .ok ms → ∀ m ∈ ms, m.2.Fits depth
  | [], _, _, _, _, hread, h => by
    cases h
    exact fun v hv => hread v (List.mem_reverse.1 hv)
  | (none, t) :: ts, _, _, _, _, _, h => by cases h
  | (some name, t) :: ts, depth, read, vs, hd, hread, h => by
    rw [memberValues] at h
    cases hv : value depth t with
    | error e => simp [hv] at h
    | ok v =>
      simp only [hv] at h
      refine fits_of_memberValues ts hd ?_ h
      exact List.forall_mem_cons.2 ⟨fits_of_value t hd hv, hread⟩

end

/-! ## What is read back -/

mutual

/-- A value that fits is read back from its tree. -/
theorem value_tree : (v : Value) → {depth : Nat} → v.Fits depth →
    (∀ x ∈ v.doubles, (Number.double x).ReadBack) → value depth v.tree = .ok v
  | .null, _, _, _ => rfl
  | .bool _, _, _, _ => rfl
  | .text _, _, _, _ => rfl
  | .number (.natural n), _, _, _ => by
    rw [Value.tree, value, (Number.readBack_natural n).number?]
  | .number (.negSucc n), _, _, _ => by
    rw [Value.tree, value, (Number.readBack_negSucc n).number?]
  | .number (.double x), _, _, h => by
    rw [Value.tree, value, (h x (by simp [doubles])).number?]
  | .array items, _, hf, h => by
    rw [doubles] at h
    obtain ⟨hd, hitems⟩ := fits_array_iff.1 hf
    simp [Value.tree, value, hd, itemValues_itemTrees items [] hitems h]
  | .object ms, _, hf, h => by
    rw [doubles] at h
    obtain ⟨hd, hsorted, hmembers⟩ := fits_object_iff.1 hf
    simp [Value.tree, value, hd, memberValues_memberTrees ms [] hmembers h,
      objectOf_of_sorted hsorted]

theorem itemValues_itemTrees : (vs read : List Value) → {depth : Nat} →
    (∀ v ∈ vs, v.Fits depth) → (∀ x ∈ doublesItems vs, (Number.double x).ReadBack) →
      itemValues depth read (itemTrees vs) = .ok (read.reverse ++ vs)
  | [], _, _, _, _ => by simp [itemTrees, itemValues]
  | v :: vs, read, depth, hf, h => by
    simp only [doublesItems, List.mem_append] at h
    obtain ⟨hv, hvs⟩ := List.forall_mem_cons.1 hf
    rw [itemTrees, itemValues, value_tree v hv fun x hx => h x (.inl hx)]
    simpa using itemValues_itemTrees vs (v :: read) hvs fun x hx => h x (.inr hx)

theorem memberValues_memberTrees : (ms read : List (String × Value)) → {depth : Nat} →
    (∀ m ∈ ms, m.2.Fits depth) →
      (∀ x ∈ doublesMembers ms, (Number.double x).ReadBack) →
        memberValues depth read (memberTrees ms) = .ok (read.reverse ++ ms)
  | [], _, _, _, _ => by simp [memberTrees, memberValues]
  | m :: ms, read, depth, hf, h => by
    simp only [doublesMembers, List.mem_append] at h
    obtain ⟨hm, hms⟩ := List.forall_mem_cons.1 hf
    rw [memberTrees, memberValues, value_tree m.2 hm fun x hx => h x (.inl hx)]
    simpa using memberValues_memberTrees ms (m :: read) hms fun x hx => h x (.inr hx)

end

/-! ## Numbers that stand alone -/

namespace Builder

/-- The tree that is built is no single token. -/
inductive Grown : Builder → Prop
  /-- A token was out of place. -/
  | astray {b : Builder} (h : b.sound = false) : Grown b
  /-- A container is open. -/
  | inside {b : Builder} (hs : b.stack ≠ []) (hw : b.want ≠ .nothing) : Grown b
  /-- The tree is a container. -/
  | whole {b : Builder} (hw : b.want = .nothing)
    (hr : (∃ items closed, b.root = .array items closed) ∨
      ∃ members closed, b.root = .object members closed) : Grown b

variable {b : Builder}

theorem grown_put {t : Tree} (h : b.stack ≠ [] ∨ (∃ items closed, t = .array items closed) ∨
    ∃ members closed, t = .object members closed) : (b.put t).Grown := by
  obtain ⟨stack, want, root, sound⟩ := b
  cases stack with
  | nil => exact .whole rfl (h.resolve_left fun hs => hs rfl)
  | cons f outer =>
    cases f with
    | object members => exact .astray rfl
    | _ => exact .inside nofun nofun

theorem grown_closeArray : b.closeArray.Grown := by
  unfold closeArray
  split
  · exact grown_put (.inr (.inl ⟨_, _, rfl⟩))
  · exact .astray rfl

theorem grown_closeObject : b.closeObject.Grown := by
  unfold closeObject
  split
  · exact grown_put (.inr (.inr ⟨_, _, rfl⟩))
  · exact .astray rfl

theorem grown_value (h : b.stack ≠ []) (t : Token) : (b.value t).Grown := by
  cases t with
  | null | bool | numeral | text => exact grown_put (.inl h)
  | openArray | openObject => exact .inside nofun nofun
  | _ => exact .astray rfl

theorem grown_name (t : Token) : (b.name t).Grown := by
  unfold name
  split
  · exact .inside nofun nofun
  · exact .astray rfl

theorem grown_next (h : b.stack ≠ []) (t : Token) : (b.next t).Grown := by
  cases t with
  | comma =>
    simp only [next]
    split
    · exact .inside h nofun
    · exact .inside h nofun
    · exact .astray rfl
  | closeArray => exact grown_closeArray
  | closeObject => exact grown_closeObject
  | _ => exact .astray rfl

theorem Grown.step (h : b.Grown) (t : Token) : (b.step t).Grown := by
  unfold Builder.step
  split
  · rename_i hsound
    cases h with
    | astray h => rw [h] at hsound; cases hsound
    | whole hw hr => rw [hw]; exact .astray rfl
    | inside hs hw =>
      split
      · exact grown_closeArray
      · exact grown_value hs _
      · exact grown_value hs _
      · exact grown_next hs _
      · exact grown_closeObject
      · exact grown_name _
      · exact grown_name _
      · exact .inside hs nofun
      · exact .astray rfl
  · exact h

theorem Grown.foldl (h : b.Grown) (ts : List Token) : (ts.foldl Builder.step b).Grown := by
  induction ts generalizing b with
  | nil => exact h
  | cons t ts ih => exact ih (h.step t)

end Builder

end Enrolment.Json
