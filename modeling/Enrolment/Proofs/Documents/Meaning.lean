import Enrolment.Proofs.Documents.Reading

/-!
# What a document stands for

What a tree stands for is said without a reader: null, a truth value and a text
stand for themselves, a numeral for its number, an array for the values of its
items in turn, and an object for the values of its members by their names.  An
object may give a name more than once; what comes last counts.

Whatever a reader makes of a tree is what the tree stands for, and a tree stands
for one value at most.

## Main definitions

* `Tree.Means` — the value that a tree stands for.

## Main statements

* `means_of_value` — what is read is what the tree stands for.
* `Tree.Means.unique` — a tree stands for one value at most.
-/

namespace Enrolment.Json

open Value

mutual

/-- The tree stands for the value. -/
inductive Tree.Means : Tree → Value → Prop
  /-- Null stands for null. -/
  | null : Tree.Means .null .null
  /-- A truth value stands for itself. -/
  | bool (b : Bool) : Tree.Means (.bool b) (.bool b)
  /-- A numeral stands for its number. -/
  | number {m : Numeral} {n : Number} (h : m.number? = some n) :
    Tree.Means (.numeral m) (.number n)
  /-- A text stands for itself. -/
  | text (s : String) : Tree.Means (.text (some s)) (.text s)
  /-- An array stands for the values of its items. -/
  | array {items : List Tree} {vs : List Value} (h : Tree.MeansItems items vs) :
    Tree.Means (.array items true) (.array vs)
  /-- An object stands for the values of its members in the order of their names,
  and of the members of one name for the last one. -/
  | object {parts : List (Option String × Tree)} {given ms : List (String × Value)}
    (h : Tree.MeansMembers parts given) (hsorted : (ms.map Prod.fst).Pairwise (· < ·))
    (hlast : ∀ name, ms.lookup name = given.reverse.lookup name) :
    Tree.Means (.object parts true) (.object ms)

/-- The trees stand for the values in turn. -/
inductive Tree.MeansItems : List Tree → List Value → Prop
  /-- No trees stand for no values. -/
  | nil : Tree.MeansItems [] []
  /-- The first tree stands for the first value. -/
  | cons {t : Tree} {v : Value} {ts : List Tree} {vs : List Value} (h : Tree.Means t v)
    (hs : Tree.MeansItems ts vs) : Tree.MeansItems (t :: ts) (v :: vs)

/-- The named trees stand for the values of these names in turn. -/
inductive Tree.MeansMembers : List (Option String × Tree) → List (String × Value) → Prop
  /-- No trees stand for no values. -/
  | nil : Tree.MeansMembers [] []
  /-- The first tree stands for the first value, under its name. -/
  | cons {name : String} {t : Tree} {v : Value} {parts : List (Option String × Tree)}
    {given : List (String × Value)} (h : Tree.Means t v) (hs : Tree.MeansMembers parts given) :
    Tree.MeansMembers ((some name, t) :: parts) ((name, v) :: given)

end

/-! ## The members of an object -/

namespace Value

variable {name other : String} {v : Value} {ms ns : List (String × Value)}

theorem lookup_cons_self : ((name, v) :: ms).lookup name = some v := by
  simp

theorem lookup_cons_of_ne (h : other ≠ name) :
    ((name, v) :: ms).lookup other = ms.lookup other := by
  simp [List.lookup_cons, beq_eq_false_iff_ne.2 h]

/-- A member that is put among others is found under its name, and these are found
as they were. -/
theorem lookup_insertMember :
    (insertMember name v ms).lookup other = ((name, v) :: ms).lookup other := by
  induction ms with
  | nil => rfl
  | cons m ms ih =>
    obtain ⟨first, u⟩ := m
    rw [insertMember]
    split
    · rfl
    split
    · rename_i heq
      subst heq
      by_cases hother : other = name
      · subst hother
        rw [lookup_cons_self, lookup_cons_self]
      · rw [lookup_cons_of_ne hother, lookup_cons_of_ne hother, lookup_cons_of_ne hother]
    · rename_i hne
      by_cases hfirst : other = first
      · subst hfirst
        rw [lookup_cons_self, lookup_cons_of_ne (Ne.symm hne), lookup_cons_self]
      · rw [lookup_cons_of_ne hfirst, ih]
        by_cases hother : other = name
        · subst hother
          rw [lookup_cons_self, lookup_cons_self]
        · rw [lookup_cons_of_ne hother, lookup_cons_of_ne hother, lookup_cons_of_ne hfirst]

/-- The object of members that were read in turn holds the last one of a name. -/
theorem lookup_of_objectOf (h : objectOf ms = .object ns) :
    ns.lookup name = ms.reverse.lookup name := by
  have honto (before : List (String × Value)) :
      (ms.foldl (fun ms m => insertMember m.1 m.2 ms) before).lookup name =
        (ms.reverse ++ before).lookup name := by
    clear h
    induction ms generalizing before with
    | nil => rfl
    | cons m ms ih =>
      rw [List.foldl_cons, ih, List.reverse_cons, List.append_assoc, List.lookup_append,
        List.lookup_append, lookup_insertMember]
      rfl
  rw [objectOf] at h
  rw [← Value.object.inj h, honto [], List.append_nil]

/-- Members in ascending order are found under their names. -/
theorem mem_iff_lookup (h : ms.Pairwise (·.1 < ·.1)) :
    (name, v) ∈ ms ↔ ms.lookup name = some v := by
  rw [List.lookup_eq_some_iff]
  constructor
  · intro hmem
    obtain ⟨before, after, rfl⟩ := List.append_of_mem hmem
    refine ⟨before, after, rfl, fun m hm => ?_⟩
    have hlt : m.1 < name := (List.pairwise_append.1 h).2.2 m hm _ List.mem_cons_self
    exact bne_iff_ne.2 (String.ne_of_lt hlt).symm
  · rintro ⟨before, after, rfl, -⟩
    simp

/-- Members in ascending order that are found under the same names are the same. -/
theorem eq_of_lookup (hms : (ms.map Prod.fst).Pairwise (· < ·))
    (hns : (ns.map Prod.fst).Pairwise (· < ·)) (h : ∀ name, ms.lookup name = ns.lookup name) :
    ms = ns := by
  rw [List.pairwise_map] at hms hns
  have hdistinct {ms : List (String × Value)} (h : ms.Pairwise (·.1 < ·.1)) : ms.Nodup :=
    h.imp fun hlt heq => String.ne_of_lt hlt (congrArg Prod.fst heq)
  have hperm : ms.Perm ns := by
    refine (List.perm_ext_iff_of_nodup (hdistinct hms) (hdistinct hns)).2 fun m => ?_
    rw [mem_iff_lookup hms, mem_iff_lookup hns, h]
  exact hperm.eq_of_pairwise (fun m n _ _ hlt hgt => (String.lt_asymm hlt hgt).elim) hms hns

end Value

/-! ## What is read -/

mutual

/-- What is read is what the tree stands for. -/
theorem means_of_value : (t : Tree) → {depth : Nat} → {v : Value} → value depth t = .ok v →
    t.Means v
  | .null, _, _, h => by cases h; exact .null
  | .bool b, _, _, h => by cases h; exact .bool b
  | .text (some s), _, _, h => by cases h; exact .text s
  | .numeral n, _, _, h => by
    rw [value] at h
    split at h
    · cases h; exact .number ‹_›
    · cases h
  | .array items closed, _, _, h => by
    obtain ⟨-, rfl, vs, hvs, rfl⟩ := exists_of_value_array h
    obtain ⟨_, rfl, hitems⟩ := means_of_itemValues items hvs
    exact .array hitems
  | .object members closed, _, _, h => by
    obtain ⟨-, rfl, ms, hms, rfl⟩ := exists_of_value_object h
    obtain ⟨_, rfl, hmembers⟩ := means_of_memberValues members hms
    obtain ⟨ns, hns, hsorted, -⟩ := objectOf_eq _
    exact hns ▸ .object hmembers hsorted fun _ => lookup_of_objectOf hns

theorem means_of_itemValues : (ts : List Tree) → {depth : Nat} → {read vs : List Value} →
    itemValues depth read ts = .ok vs → ∃ more, vs = read.reverse ++ more ∧ Tree.MeansItems ts more
  | [], _, _, _, h => by
    cases h
    exact ⟨[], (List.append_nil _).symm, .nil⟩
  | t :: ts, depth, read, vs, h => by
    rw [itemValues] at h
    cases hv : value depth t with
    | error e => simp [hv] at h
    | ok v =>
      simp only [hv] at h
      obtain ⟨more, rfl, hmore⟩ := means_of_itemValues ts h
      exact ⟨v :: more, by simp, .cons (means_of_value t hv) hmore⟩

theorem means_of_memberValues : (ts : List (Option String × Tree)) → {depth : Nat} →
    {read ms : List (String × Value)} → memberValues depth read ts = .ok ms →
      ∃ more, ms = read.reverse ++ more ∧ Tree.MeansMembers ts more
  | [], _, _, _, h => by
    cases h
    exact ⟨[], (List.append_nil _).symm, .nil⟩
  | (none, t) :: ts, _, _, _, h => by cases h
  | (some name, t) :: ts, depth, read, vs, h => by
    rw [memberValues] at h
    cases hv : value depth t with
    | error e => simp [hv] at h
    | ok v =>
      simp only [hv] at h
      obtain ⟨more, rfl, hmore⟩ := means_of_memberValues ts h
      exact ⟨(name, v) :: more, by simp, .cons (means_of_value t hv) hmore⟩

end

mutual

/-- A tree stands for one value at most. -/
theorem Tree.Means.unique : {t : Tree} → {v w : Value} → t.Means v → t.Means w → v = w
  | _, _, _, .null, .null => rfl
  | _, _, _, .bool _, .bool _ => rfl
  | _, _, _, .text _, .text _ => rfl
  | _, _, _, .number h, .number h' => by rw [Option.some.inj (h.symm.trans h')]
  | _, _, _, .array h, .array h' => by rw [h.unique h']
  | _, _, _, .object h hsorted hlast, .object h' hsorted' hlast' => by
    obtain rfl := h.unique h'
    rw [eq_of_lookup hsorted hsorted' fun name => (hlast name).trans (hlast' name).symm]

theorem Tree.MeansItems.unique : {ts : List Tree} → {vs ws : List Value} → MeansItems ts vs →
    MeansItems ts ws → vs = ws
  | _, _, _, .nil, .nil => rfl
  | _, _, _, .cons h hs, .cons h' hs' => by rw [h.unique h', hs.unique hs']

theorem Tree.MeansMembers.unique : {parts : List (Option String × Tree)} →
    {ms ns : List (String × Value)} → MeansMembers parts ms → MeansMembers parts ns → ms = ns
  | _, _, _, .nil, .nil => rfl
  | _, _, _, .cons h hs, .cons h' hs' => by rw [h.unique h', hs.unique hs']

end

end Enrolment.Json
