import Enrolment.Text.Blank
import Enrolment.Text.Integer
import Enrolment.Text.Split

/-!
# Texts that are put together and taken apart

A text that is put together from parts is cut into the same parts again, as long
as no part holds the separator.  What stands between quotes comes back without
them, unless it begins or ends with one itself; and an integer that is written
is read again.

## Main statements

* `Text.fields_intercalate` — joined parts are cut apart again.
* `Text.mem_of_mem_fields` — no part holds the separator.
* `Text.stripBoth_quoted` — what stands between quotes comes back.
* `Text.readInteger_integerText` — a written integer is read again.
* `Text.toNat_of_isAlphanum` — the codes of letters and digits.
-/

namespace Enrolment.Text

variable {sep c : Char} {cs xs ys : List Char}

/-! ## Parts between separators -/

/-- The first part ends at the first separator. -/
theorem fields_append_sep (h : sep ∉ xs) (ys : List Char) :
    fields sep (xs ++ sep :: ys) = xs :: fields sep ys := by
  induction xs with
  | nil => exact fields_cons_sep sep ys
  | cons x xs ih =>
    have hx : x ≠ sep := fun hx => h (hx ▸ List.mem_cons_self)
    have hrest := ih fun hmem => h (List.mem_cons_of_mem x hmem)
    simp only [fields, List.cons_append, List.foldr_cons, hx, if_false] at hrest ⊢
    rw [hrest]

/-- A text without separators is its own single part. -/
theorem fields_of_not_mem (h : sep ∉ xs) : fields sep xs = [xs] := by
  induction xs with
  | nil => rfl
  | cons x xs ih =>
    have hx : x ≠ sep := fun hx => h (hx ▸ List.mem_cons_self)
    have hrest := ih fun hmem => h (List.mem_cons_of_mem x hmem)
    simp only [fields, List.foldr_cons, hx, if_false] at hrest ⊢
    rw [hrest]

/-- A character that is no separator goes to the front of the first part. -/
theorem fields_cons_of_ne (h : c ≠ sep) (cs : List Char) : ∃ part rest,
    fields sep cs = part :: rest ∧ fields sep (c :: cs) = (c :: part) :: rest := by
  obtain ⟨part, rest, hparts⟩ := List.exists_cons_of_ne_nil (fields_ne_nil sep cs)
  refine ⟨part, rest, hparts, ?_⟩
  simp only [fields, List.foldr_cons, h, if_false] at hparts ⊢
  rw [hparts]

/-- The parts are those that a list has between separators. -/
theorem fields_eq_splitOn (sep : Char) (cs : List Char) : fields sep cs = cs.splitOn sep := by
  induction cs with
  | nil => rfl
  | cons c cs ih =>
    rw [List.splitOn] at ih ⊢
    rw [List.splitOnP_cons_eq_if_modifyHead, ← ih]
    by_cases hc : c = sep
    · rw [hc, fields_cons_sep, if_pos (beq_self_eq_true sep)]
    · obtain ⟨part, rest, hparts, hcons⟩ := fields_cons_of_ne hc cs
      rw [hcons, hparts, if_neg (by simpa using hc), List.modifyHead_cons]

/-- Joined parts are cut apart again, if none of them holds the separator. -/
theorem fields_intercalate {parts : List (List Char)} (hne : parts ≠ [])
    (h : ∀ part ∈ parts, sep ∉ part) : fields sep ([sep].intercalate parts) = parts := by
  rw [fields_eq_splitOn, List.splitOn_intercalate sep h hne]

/-- A part holds characters of the text, and never the separator. -/
theorem mem_of_mem_fields {x : Char} (h : xs ∈ fields sep cs) (hx : x ∈ xs) :
    x ∈ cs ∧ x ≠ sep := by
  induction cs generalizing xs with
  | nil => simp_all
  | cons c cs ih =>
    by_cases hc : c = sep
    · subst hc
      rw [fields_cons_sep] at h
      rcases List.mem_cons.1 h with rfl | h
      · cases hx
      · exact ⟨List.mem_cons_of_mem c (ih h hx).1, (ih h hx).2⟩
    · obtain ⟨part, rest, hparts, hcons⟩ := fields_cons_of_ne hc cs
      rw [hcons] at h
      rcases List.mem_cons.1 h with rfl | h
      · rcases List.mem_cons.1 hx with rfl | hx
        · exact ⟨List.mem_cons_self, hc⟩
        · have hpart := ih (hparts ▸ List.mem_cons_self) hx
          exact ⟨List.mem_cons_of_mem c hpart.1, hpart.2⟩
      · have hrest := ih (hparts ▸ List.mem_cons_of_mem part h) hx
        exact ⟨List.mem_cons_of_mem c hrest.1, hrest.2⟩

/-- A text is cut at its first separator. -/
theorem cutAt_append_sep (h : sep ∉ xs) (ys : List Char) :
    cutAt sep (xs ++ sep :: ys) = some (xs, ys) := by
  have hxs : ∀ x ∈ xs, (x != sep) = true := fun x hx => by
    rw [bne_iff_ne]
    rintro rfl
    exact h hx
  simp [cutAt, List.dropWhile_append_of_pos hxs, List.takeWhile_append_of_pos hxs]

/-! ## Ends of texts -/

/-- What is cut holds characters of the text. -/
theorem mem_of_cutAt {x : Char} (h : cutAt sep cs = some (xs, ys)) (hx : x ∈ ys) : x ∈ cs := by
  unfold cutAt at h
  split at h
  · cases h
  · rename_i rest hrest
    cases h
    exact List.dropWhile_subset _ (hrest ▸ List.mem_cons_of_mem _ hx)

/-- What is left of a text between its ends holds characters of the text. -/
private theorem mem_of_mem_between {p q : Char → Bool} {x : Char}
    (h : x ∈ ((cs.dropWhile p).reverse.dropWhile q).reverse) : x ∈ cs :=
  List.dropWhile_subset p (List.mem_reverse.1 (List.dropWhile_subset q (List.mem_reverse.1 h)))

theorem mem_of_mem_trim {x : Char} (h : x ∈ trim cs) : x ∈ cs := mem_of_mem_between h

theorem mem_of_mem_stripBoth {x : Char} (h : x ∈ stripBoth c cs) : x ∈ cs := mem_of_mem_between h

/-- What stands between quotes and does not end with one comes back, less the
quotes at its front. -/
theorem stripBoth_quoted_of_last {last : Char} (hl : last ≠ c) (xs : List Char) :
    stripBoth c (c :: (xs ++ [last]) ++ [c]) = (xs ++ [last]).dropWhile (· == c) := by
  have hl' : (last == c) = false := by simpa using hl
  have hdrop : (xs ++ [last]).dropWhile (· == c) = xs.dropWhile (· == c) ++ [last] := by
    rw [List.dropWhile_append]
    cases h : xs.dropWhile (· == c) <;> simp [hl']
  have hfront : (c :: (xs ++ [last]) ++ [c]).dropWhile (· == c) =
      xs.dropWhile (· == c) ++ [last] ++ [c] := by
    rw [List.cons_append, List.dropWhile_cons_of_pos (by simp), List.dropWhile_append, hdrop]
    simp
  rw [stripBoth, hfront, hdrop]
  simp [hl']

/-- What stands between quotes and holds none comes back. -/
theorem stripBoth_quoted (h : c ∉ xs) : stripBoth c (c :: xs ++ [c]) = xs := by
  cases hx : xs.reverse with
  | nil =>
    obtain rfl := List.reverse_eq_nil_iff.1 hx
    simp [stripBoth]
  | cons last rest =>
    obtain rfl : xs = rest.reverse ++ [last] := by simpa using congrArg List.reverse hx
    have hl : last ≠ c := fun hl => h (hl ▸ by simp)
    rw [stripBoth_quoted_of_last hl]
    cases hr : rest.reverse ++ [last] with
    | nil => simp at hr
    | cons first more =>
      have hf : first ≠ c := fun hf => h (by rw [hr, hf]; exact List.mem_cons_self)
      exact List.dropWhile_cons_of_neg (by simpa using hf)

/-! ## Integers -/

theorem digitValue?_digitChar {n : Nat} (h : n < 10) : digitValue? n.digitChar = some n := by
  revert n
  decide

theorem readDigits_append {bound value : Nat} {excess : IntegerError} (xs ys : List Char) :
    readDigits bound excess value (xs ++ ys) =
      (readDigits bound excess value xs).bind fun value => readDigits bound excess value ys := by
  induction xs generalizing value with
  | nil => rfl
  | cons x xs ih =>
    rw [List.cons_append, readDigits, readDigits]
    cases digitValue? x with
    | none => rfl
    | some d =>
      by_cases hd : value * 10 + d ≤ bound
      · simp only [hd, if_true, ih]
      · simp only [hd, if_false]
        rfl

/-- A number that is written is read again. -/
theorem readDigits_toDigits {bound n : Nat} {excess : IntegerError} (h : n ≤ bound) :
    readDigits bound excess 0 (Nat.toDigits 10 n) = .ok n := by
  induction n using Nat.strongRecOn with
  | _ n ih =>
    rw [Nat.toDigits_eq_if (by decide)]
    split
    · rename_i hn
      simp [readDigits, digitValue?_digitChar hn, h]
    · rename_i hn
      have hmod : n % 10 < 10 := Nat.mod_lt n (by decide)
      have hvalue : n / 10 * 10 + n % 10 = n := by omega
      rw [readDigits_append, ih (n / 10) (by omega) (by omega)]
      simp [Except.bind, readDigits, digitValue?_digitChar hmod, hvalue, h]

theorem integerText_chars {n : Int} {x : Char} (h : x ∈ (integerText n).toList) :
    x.isDigit = true ∨ x = '-' := by
  have hdigits : ∀ {m : Nat}, x ∈ Nat.toDigits 10 m → x.isDigit = true :=
    Nat.isDigit_of_mem_toDigits (by decide) (by decide)
  unfold integerText at h
  split at h
  · rw [String.toList_append, Nat.toList_repr] at h
    rcases List.mem_append.1 h with h | h
    · exact .inr (by simpa using h)
    · exact .inl (hdigits h)
  · rw [Nat.toList_repr] at h
    exact .inl (hdigits h)

/-- An integer that is written is read again. -/
theorem readInteger_integerText {low high : Nat} {n : Int} (hl : -(low : Int) ≤ n)
    (hh : n ≤ (high : Int)) : readInteger low high (integerText n).toList = .ok n := by
  obtain ⟨d, ds, hds⟩ := List.exists_cons_of_ne_nil (Nat.toDigits_ne_nil (n := n.natAbs) (b := 10))
  have hdigit : d.isDigit = true :=
    Nat.isDigit_of_mem_toDigits (by decide) (by decide) (hds ▸ List.mem_cons_self)
  by_cases hn : n < 0
  · have hread : readDigits low .tooSmall 0 (d :: ds) = .ok n.natAbs :=
      hds ▸ readDigits_toDigits (by omega)
    have htext : (integerText n).toList = '-' :: d :: ds := by
      simp [integerText, hn, hds]
    have hneg : -(n.natAbs : Int) = n := by omega
    rw [htext, readInteger, hread]
    · exact congrArg Except.ok hneg
    · simp
  · have hread : readDigits high .tooLarge 0 (d :: ds) = .ok n.natAbs :=
      hds ▸ readDigits_toDigits (by omega)
    have htext : (integerText n).toList = d :: ds := by
      simp [integerText, hn, hds]
    have hminus : d ≠ '-' := by
      rintro rfl
      cases hdigit
    have hplus : d ≠ '+' := by
      rintro rfl
      cases hdigit
    have hpos : (n.natAbs : Int) = n := by omega
    have hnatural : readNatural high (d :: ds) = .ok n.natAbs := by
      rw [readNatural, hread] <;> simp [hplus]
    rw [htext, readInteger, hnatural]
    · simp [Except.map, hpos]
    · simp
    · simp [hminus]
    · simp [hminus]

/-! ## Letters and digits -/

/-- The codes of letters and digits. -/
theorem toNat_of_isAlphanum {x : Char} (h : x.isAlphanum = true) :
    (65 ≤ x.toNat ∧ x.toNat ≤ 90) ∨ (97 ≤ x.toNat ∧ x.toNat ≤ 122) ∨
      (48 ≤ x.toNat ∧ x.toNat ≤ 57) := by
  have hranges : (decide (65 ≤ x.val ∧ x.val ≤ 90) || (97 ≤ x.val && x.val ≤ 122) ||
      (48 ≤ x.val && x.val ≤ 57)) = true := h
  simpa [UInt32.le_iff_toNat_le, or_assoc] using hranges

end Enrolment.Text
