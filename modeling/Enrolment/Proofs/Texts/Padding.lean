import Enrolment.Text.Blank
import Mathlib.Data.List.TakeWhile

/-!
# Texts that are padded

Blank characters that are put around a text are cut off again, whatever the text
is; what is left has no blank ends, and nothing is left of a text exactly if all
of it is blank.

## Main definitions

* `Text.Trims` — what is left of a text without its blank ends.

## Main statements

* `Text.trim_padded`, `Text.trimmed_padded` — padding is cut off.
* `Text.trim_eq_iff` — what trimming leaves.
* `Text.trimmed_eq_empty_iff` — when nothing is left.
-/

namespace Enrolment.Text

variable {cs core before after : List Char} {s : String}

/-! ## At one end -/

theorem trimStart_eq_nil_iff : trimStart cs = [] ↔ cs.all isBlank = true := by
  rw [trimStart, List.dropWhile_eq_nil_iff, List.all_eq_true]

theorem trimStart_append (h : before.all isBlank = true) :
    trimStart (before ++ cs) = trimStart cs := by
  rw [trimStart, List.dropWhile_append, ← trimStart, trimStart_eq_nil_iff.2 h]
  rfl

theorem trimEnd_append (h : after.all isBlank = true) : trimEnd (cs ++ after) = trimEnd cs := by
  have hreverse : after.reverse.all isBlank = true := by rw [List.all_reverse, h]
  rw [trimEnd, List.reverse_append, ← trimStart, trimStart_append hreverse]
  rfl

theorem trimEnd_eq_nil_iff : trimEnd cs = [] ↔ cs.all isBlank = true := by
  rw [trimEnd, List.reverse_eq_nil_iff, ← trimStart, trimStart_eq_nil_iff, List.all_reverse]

/-- Cutting the front leaves what is not blank. -/
theorem all_trimStart : (trimStart cs).all isBlank = cs.all isBlank := by
  induction cs with
  | nil => rfl
  | cons c cs ih =>
    rw [trimStart, List.dropWhile_cons]
    split
    · rename_i hc
      rw [← trimStart, ih, List.all_cons, hc, Bool.true_and]
    · rfl

theorem trimStart_parts (cs : List Char) : ∃ before, cs = before ++ trimStart cs ∧
    before.all isBlank = true :=
  ⟨cs.takeWhile isBlank, List.takeWhile_append_dropWhile.symm, List.all_takeWhile⟩

theorem trimEnd_parts (cs : List Char) : ∃ after, cs = trimEnd cs ++ after ∧
    after.all isBlank = true := by
  obtain ⟨before, hcs, hbefore⟩ := trimStart_parts cs.reverse
  refine ⟨before.reverse, ?_, by rw [List.all_reverse, hbefore]⟩
  rw [trimEnd, ← trimStart, ← List.reverse_append, ← hcs, List.reverse_reverse]

/-- What is left begins with no blank. -/
theorem isBlank_of_head?_trimStart {c : Char} (h : (trimStart cs).head? = some c) :
    isBlank c = false := by
  have hstop := List.head?_dropWhile_not isBlank cs
  rw [← trimStart, h] at hstop
  simpa using hstop

/-! ## At both ends -/

theorem trim_eq_nil_iff : trim cs = [] ↔ cs.all isBlank = true := by
  rw [trim, trimEnd_eq_nil_iff, all_trimStart]

/-- Padding is cut off. -/
theorem trim_padded (hb : before.all isBlank = true) (ha : after.all isBlank = true) :
    trim (before ++ cs ++ after) = trim cs := by
  rw [trim, List.append_assoc, trimStart_append hb, trimStart, List.dropWhile_append,
    ← trimStart]
  split
  · rename_i hnone
    have hcs : trimStart cs = [] := List.isEmpty_iff.1 hnone
    rw [← trimStart, trimStart_eq_nil_iff.2 ha, trim, hcs]
  · rw [trimEnd_append ha, trim]

/-- A text without blank ends is left as it is. -/
theorem trim_eq_self (hfirst : ∀ c ∈ cs.head?, isBlank c = false)
    (hlast : ∀ c ∈ cs.getLast?, isBlank c = false) : trim cs = cs := by
  have hstart {xs : List Char} (h : ∀ c ∈ xs.head?, isBlank c = false) : trimStart xs = xs := by
    cases xs with
    | nil => rfl
    | cons c xs => exact List.dropWhile_cons_of_neg (by simpa using h)
  have hend : trimStart cs.reverse = cs.reverse := hstart (by rwa [List.head?_reverse])
  rw [trim, hstart hfirst, trimEnd, ← trimStart, hend, List.reverse_reverse]

/-- What is left of a text when its blank ends are cut off. -/
structure Trims (cs core : List Char) : Prop where
  /-- What is cut off is blank. -/
  padded : ∃ before after, cs = before ++ core ++ after ∧
    before.all isBlank = true ∧ after.all isBlank = true
  /-- What is left begins with no blank, -/
  first : ∀ c ∈ core.head?, isBlank c = false
  /-- and ends with none. -/
  last : ∀ c ∈ core.getLast?, isBlank c = false

theorem trims_trim (cs : List Char) : Trims cs (trim cs) := by
  obtain ⟨before, hstart, hbefore⟩ := trimStart_parts cs
  obtain ⟨after, hend, hafter⟩ := trimEnd_parts (trimStart cs)
  refine ⟨⟨before, after, ?_, hbefore, hafter⟩, fun c hc => ?_, fun c hc => ?_⟩
  · rw [trim, List.append_assoc, ← hend, ← hstart]
  · have hhead : (trimStart cs).head? = some c := by
      rw [hend, List.head?_append, ← trim, Option.mem_def.1 hc]
      rfl
    exact isBlank_of_head?_trimStart hhead
  · have hhead : (trimStart (trimStart cs).reverse).head? = some c := by
      rwa [trimStart, ← List.getLast?_reverse]
    exact isBlank_of_head?_trimStart hhead

/-- Trimming cuts the blank ends off, and no more. -/
theorem trim_eq_iff : trim cs = core ↔ Trims cs core := by
  constructor
  · rintro rfl
    exact trims_trim cs
  · intro ⟨⟨before, after, hcs, hbefore, hafter⟩, hfirst, hlast⟩
    rw [hcs, trim_padded hbefore hafter, trim_eq_self hfirst hlast]

/-- Nothing is left of a text if all of it is blank, and only then. -/
theorem trimmed_eq_empty_iff : trimmed s = "" ↔ allBlank s = true := by
  rw [trimmed, String.ofList_eq_empty_iff, trim_eq_nil_iff, allBlank]

/-- Padding is cut off a text. -/
theorem trimmed_padded {before after : String} (hb : allBlank before = true)
    (ha : allBlank after = true) : trimmed (before ++ s ++ after) = trimmed s := by
  simp only [trimmed, String.toList_append, trim_padded hb ha]

end Enrolment.Text
