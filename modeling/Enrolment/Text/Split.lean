/-!
# Cutting texts apart

Headers, paths and settings are texts whose parts stand between separators.
`fields` cuts at every separator, so that joining the parts with the separator
gives the text back; `cutAt` cuts at the first one only.

## Main definitions

* `fields sep cs` — the parts between the separators; one more part than there
  are separators.
* `cutAt sep cs` — what stands before and after the first separator, if any.
* `afterPrefix p cs` — the rest of a text that starts with `p`.
* `stripBoth c cs` — the text without the `c`s at its ends.
-/

namespace Enrolment.Text

/-- The parts of a text between the separators; a text without one is its own
single part. -/
def fields (sep : Char) (cs : List Char) : List (List Char) :=
  cs.foldr (fun c parts =>
    if c = sep then [] :: parts
    else match parts with
      | [] => [[c]]
      | part :: rest => (c :: part) :: rest) [[]]

/-- What stands before and after the first separator. -/
def cutAt (sep : Char) (cs : List Char) : Option (List Char × List Char) :=
  match cs.dropWhile (· != sep) with
  | [] => none
  | _ :: rest => some (cs.takeWhile (· != sep), rest)

/-- The rest of a text after the given beginning. -/
def afterPrefix : List Char → List Char → Option (List Char)
  | [], cs => some cs
  | _ :: _, [] => none
  | p :: ps, c :: cs => if p = c then afterPrefix ps cs else none

/-- The text without the `c`s at its ends. -/
def stripBoth (c : Char) (cs : List Char) : List Char :=
  ((cs.dropWhile (· == c)).reverse.dropWhile (· == c)).reverse

/-- The text without the `c`s at its end. -/
def stripEnd (c : Char) (cs : List Char) : List Char :=
  (cs.reverse.dropWhile (· == c)).reverse

/-- Two ASCII texts that differ at most in the case of letters. -/
def sameIgnoringCase (a b : String) : Bool :=
  a.toList.map Char.toLower == b.toList.map Char.toLower

theorem fields_ne_nil (sep : Char) (cs : List Char) : fields sep cs ≠ [] := by
  unfold fields
  cases cs with
  | nil => simp
  | cons c cs => simp only [List.foldr_cons]; split <;> (try split) <;> simp

@[simp] theorem fields_nil (sep : Char) : fields sep [] = [[]] := rfl

theorem fields_cons_sep (sep : Char) (cs : List Char) :
    fields sep (sep :: cs) = [] :: fields sep cs := by simp [fields]

@[simp] theorem afterPrefix_append (p cs : List Char) : afterPrefix p (p ++ cs) = some cs := by
  induction p with
  | nil => rfl
  | cons c p ih => simp [afterPrefix, ih]

theorem eq_append_of_afterPrefix {p cs rest : List Char} (h : afterPrefix p cs = some rest) :
    cs = p ++ rest := by
  induction p generalizing cs with
  | nil => simpa [afterPrefix] using h
  | cons a p ih =>
    cases cs with
    | nil => simp [afterPrefix] at h
    | cons c cs =>
      simp only [afterPrefix] at h
      split at h
      · rename_i hac; subst hac; simp [ih h]
      · simp at h

end Enrolment.Text
