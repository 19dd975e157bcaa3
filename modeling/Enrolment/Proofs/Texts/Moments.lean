import Enrolment.Proofs.Texts.Parts
import Enrolment.Time.Reading
import Mathlib.Algebra.Group.Nat.Defs

/-!
# Moments that are written and read

A moment that is written is read back as itself: years of any size and sign,
fractions of a second as far as they are written, and leap seconds.  Each part is
written with as many digits as its reader takes, or ends where no digit follows.

## Main statements

* `Moment.readNumber_padded` — a number of some digits.
* `Moment.read_text` — reading undoes writing.
-/

namespace Enrolment

namespace Moment

variable {width n low high : Nat} {cs ds rest : List Char}

/-! ## Digits -/

theorem isDigit_of_mem_padded {c : Char} (h : c ∈ padded width n) : c.isDigit = true := by
  rcases List.mem_append.1 h with h | h
  · rw [(List.mem_replicate.1 h).2]
    rfl
  · exact Nat.isDigit_of_mem_toDigits (by decide) (by decide) h

theorem padded_ne_nil : padded width n ≠ [] :=
  List.append_ne_nil_of_right_ne_nil _ Nat.toDigits_ne_nil

/-- A number that fits is filled up to the width. -/
theorem length_padded (hw : 0 < width) (h : n < 10 ^ width) : (padded width n).length = width := by
  have hle := (Nat.length_toDigits_le_iff (by decide) hw).2 h
  simp only [padded, List.length_append, List.length_replicate]
  omega

theorem isBlank_of_isDigit {c : Char} (h : c.isDigit = true) : Text.isBlank c = false := by
  have hcode : 48 ≤ c.toNat ∧ c.toNat ≤ 57 := by
    simpa [Char.isDigit, UInt32.le_iff_toNat_le] using h
  simp only [Text.isBlank, Bool.or_eq_false_iff, Bool.and_eq_false_iff, decide_eq_false_iff_not,
    beq_eq_false_iff_ne]
  omega

/-- A number begins with a digit. -/
theorem exists_digit_padded (width n : Nat) :
    ∃ d ds, padded width n = d :: ds ∧ d.isDigit = true := by
  have hne : padded width n ≠ [] := padded_ne_nil
  obtain ⟨d, ds, hds⟩ := List.exists_cons_of_ne_nil hne
  exact ⟨d, ds, hds, isDigit_of_mem_padded (hds ▸ List.mem_cons_self)⟩

theorem trimStart_padded : Text.trimStart (padded width n ++ rest) = padded width n ++ rest := by
  obtain ⟨d, ds, hds, hd⟩ := exists_digit_padded width n
  simp [Text.trimStart, hds, isBlank_of_isDigit hd]

/-- The digits of a number make it up. -/
theorem numberOf_padded (h : n ≤ tooMuch) : numberOf (padded width n) = n := by
  have hzeros (k : Nat) (ds : List Char) : numberOf (List.replicate k '0' ++ ds) = numberOf ds := by
    induction k with
    | zero => rfl
    | succ k ih => exact ih
  have hdigit {d : Nat} (hd : d < 10) : d.digitChar.toNat - 48 = d := by
    revert d
    decide
  rw [padded, hzeros]
  induction n using Nat.strongRecOn with
  | _ n ih =>
    rw [Nat.toDigits_eq_if (by decide)]
    split
    · rename_i hlt
      simp [numberOf, hdigit hlt, h]
    · have hrest := ih (n / 10) (by omega) (by omega)
      rw [numberOf] at hrest
      rw [numberOf, List.foldl_append, hrest, List.foldl_cons, List.foldl_nil,
        hdigit (Nat.mod_lt n (by decide))]
      omega

/-- Digits at the front of a text are read as their number, if the reader takes all
of them and no more. -/
theorem readNumber_append {most : Option Nat} (hne : ds ≠ [])
    (h : digitsOf most (ds ++ rest) = ds) :
    readNumber most (ds ++ rest) = .ok (numberOf ds, rest) := by
  unfold readNumber
  split
  · rename_i heq
    exact absurd (List.append_eq_nil_iff.1 heq).1 hne
  · rename_i hnil _
    exact absurd (h.symm.trans hnil) hne
  · rw [h, List.drop_left]

/-- A number is read back by a reader that takes as many digits as it has. -/
theorem readNumber_padded (hw : 0 < width) (hn : n < 10 ^ width) (hmuch : n ≤ tooMuch) :
    readNumber (some width) (padded width n ++ rest) = .ok (n, rest) := by
  rw [readNumber_append padded_ne_nil, numberOf_padded hmuch]
  have hlength := length_padded hw hn
  rw [digitsOf, List.takeWhile_append_of_pos fun _ => isDigit_of_mem_padded]
  exact List.take_left' hlength

/-- A number is read back by a reader that takes all digits, if no digit follows. -/
theorem readNumber_padded_of_end {c : Char} (hc : c.isDigit = false) (hmuch : n ≤ tooMuch) :
    readNumber none (padded width n ++ c :: rest) = .ok (n, c :: rest) := by
  rw [readNumber_append padded_ne_nil, numberOf_padded hmuch]
  rw [digitsOf, List.takeWhile_append_of_pos fun _ => isDigit_of_mem_padded,
    List.takeWhile_cons_of_neg (by simp [hc]), List.append_nil]

/-! ## Parts -/

/-- A field of two digits is read back. -/
theorem readField_padded (hl : low ≤ n) (hh : n ≤ high) (hhigh : high < 100) :
    readField low high (padded 2 n ++ rest) = .ok (n, rest) := by
  have hmuch : n ≤ tooMuch := by
    rw [tooMuch]
    omega
  rw [readField, trimStart_padded, readNumber_padded (by decide) (by omega) hmuch]
  simp [bind, Except.bind, hl, hh, pure, Except.pure]

/-- A year is read back. -/
theorem readYear_yearText {year : Int} (h : isYear year = true) :
    readYear (yearText year ++ '-' :: rest) = .ok (year, '-' :: rest) := by
  have hyear : -262143 ≤ year ∧ year ≤ 262142 := by simpa [isYear] using h
  have hmuch : year.natAbs ≤ tooMuch := by
    rw [tooMuch]
    omega
  have hrange : -2147483648 ≤ year ∧ year ≤ 2147483647 := by omega
  have hsigned : readNumber none (padded 4 year.natAbs ++ '-' :: rest) =
      .ok (year.natAbs, '-' :: rest) := readNumber_padded_of_end rfl hmuch
  unfold yearText
  split
  · have hnumber : readNumber (some 4) (padded 4 year.toNat ++ '-' :: rest) =
        .ok (year.toNat, '-' :: rest) :=
      readNumber_padded (by decide) (by omega) (by omega)
    rw [readYear, trimStart_padded]
    obtain ⟨d, ds, hds, hd⟩ := exists_digit_padded 4 year.toNat
    split
    · rename_i hcons
      rw [hds] at hcons
      cases hcons
      cases hd
    · rename_i hcons
      rw [hds] at hcons
      cases hcons
      cases hd
    · have hvalue : (year.toNat : Int) = year := by omega
      simp only [hnumber, hvalue, if_pos hrange, bind, Except.bind, pure, Except.pure]
  · split
    · have hvalue : -(year.natAbs : Int) = year := by omega
      have hblank : Text.isBlank '-' = false := rfl
      simp only [readYear, Text.trimStart, List.cons_append, List.dropWhile_cons, hblank,
        Bool.false_eq_true, if_false, hsigned, hvalue, if_pos hrange, bind, Except.bind, pure,
        Except.pure]
    · have hvalue : (year.natAbs : Int) = year := by omega
      have hblank : Text.isBlank '+' = false := rfl
      simp only [readYear, Text.trimStart, List.cons_append, List.dropWhile_cons, hblank,
        Bool.false_eq_true, if_false, hsigned, hvalue, if_pos hrange, bind, Except.bind, pure,
        Except.pure]

/-- A fraction of a second is read back. -/
theorem readFraction_padded (hw : 0 < width ∧ width ≤ 9) (hn : n < 10 ^ width) :
    readFraction ('.' :: (padded width n ++ ['Z'])) = .ok (n * Nat.pow 10 (9 - width), ['Z']) := by
  have hlength := length_padded hw.1 hn
  have hpow : 10 ^ width ≤ 10 ^ 9 := Nat.pow_le_pow_right (by decide) hw.2
  have hmuch : n ≤ tooMuch := by
    rw [tooMuch]
    omega
  have hdigits : digitsOf (some 9) (padded width n ++ ['Z']) = padded width n := by
    rw [digitsOf, List.takeWhile_append_of_pos fun _ => isDigit_of_mem_padded,
      List.takeWhile_cons_of_neg (by decide), List.append_nil, List.take_of_length_le (by omega)]
  have hrest : (padded width n ++ ['Z']).dropWhile Char.isDigit = ['Z'] := by
    rw [List.dropWhile_append_of_pos fun _ => isDigit_of_mem_padded]
    rfl
  rw [readFraction, readNumber_append padded_ne_nil hdigits, hdigits, hrest, hlength,
    numberOf_padded hmuch]
  rfl

theorem readFraction_fractionText (hn : n < 1000000000) :
    readFraction (fractionText n ++ ['Z']) = .ok (n, ['Z']) := by
  unfold fractionText
  split
  · subst n
    rfl
  split
  · rw [List.cons_append, readFraction_padded (by decide) (by omega)]
    rw [show n / 1000000 * Nat.pow 10 (9 - 3) = n by simp; omega]
  split
  · rw [List.cons_append, readFraction_padded (by decide) (by omega)]
    rw [show n / 1000 * Nat.pow 10 (9 - 6) = n by simp; omega]
  · rw [List.cons_append, readFraction_padded (by decide) (by omega)]
    rw [show n * Nat.pow 10 (9 - 9) = n by simp]

/-- The fields of a moment make it up. -/
theorem ofFields?_eq (t : Moment) :
    ofFields? t.date.year t.date.month t.date.day t.hour t.minute
      (t.second + t.nanos / 1000000000) (t.nanos % 1000000000) = some t := by
  obtain ⟨date, hour, minute, second, nanos, hh, hm, hs, hn, hleap⟩ := t
  have hdate : Date.of? date.year date.month date.day = some date := dif_pos date.valid
  have hfields : hour < 24 ∧ minute < 60 ∧ second + nanos / 1000000000 ≤ 60 ∧
      nanos % 1000000000 < 1000000000 := by omega
  simp only [ofFields?, hdate, Option.bind_eq_bind, Option.bind_some, dif_pos hfields]
  congr 2
  · omega
  · omega

theorem shift?_zero (t : Moment) : t.shift? 0 = some t := by
  obtain ⟨date, hour, minute, second, nanos, hh, hm, hs, hn, hleap⟩ := t
  have hnext : ¬(hour : Int) * 60 + minute + 0 < 0 := by omega
  have hsame : (hour : Int) * 60 + minute + 0 < 1440 := by omega
  simp only [shift?, if_neg hnext, if_pos hsame, Option.bind_eq_bind, Option.bind_some]
  congr 2
  · omega
  · omega

/-- No month is longer. -/
theorem daysInMonth_le (year : Int) (month : Nat) : daysInMonth year month ≤ 31 := by
  unfold daysInMonth
  split
  · split <;> decide
  · split <;> decide

/-- **A moment that is written is read back.** -/
theorem read_text (t : Moment) : read t.text = .ok t := by
  have hvalid := t.date.valid
  simp only [isDate, Bool.and_eq_true, decide_eq_true_eq] at hvalid
  obtain ⟨⟨hyear, hmonth⟩, hday⟩ := hvalid
  have hday' : t.date.day ≤ 31 := Nat.le_trans hday.2 (daysInMonth_le _ _)
  have hsecond : t.second + t.nanos / 1000000000 ≤ 60 := by
    have := t.second_lt
    have := t.nanos_lt
    have := t.leap
    omega
  have hmark (c : Char) (rest : List Char) (hc : Text.isBlank c = false) :
      readMark c (c :: rest) = .ok rest := by
    simp [readMark, Text.trimStart, hc]
  have hdivider (rest : List Char) : readDivider ('T' :: rest) = .ok rest := rfl
  have hzone : readZone (Text.trimStart ['Z']) = .ok (0, []) := rfl
  rw [read, text, String.toList_ofList, chars, dateText, clockText]
  simp only [List.append_assoc, List.cons_append]
  simp only [readChars, bind, Except.bind, readYear_yearText hyear, hmark '-' _ rfl,
    hmark ':' _ rfl, hdivider, readField_padded hmonth.1 hmonth.2 (by decide),
    readField_padded hday.1 hday' (by decide),
    readField_padded (Nat.zero_le _) (Nat.le_of_lt_succ t.hour_lt) (by decide),
    readField_padded (Nat.zero_le _) (Nat.le_of_lt_succ t.minute_lt) (by decide),
    readField_padded (Nat.zero_le _) hsecond (by decide),
    readFraction_fractionText (Nat.mod_lt t.nanos (by decide)), hzone]
  have hend : ¬Text.trimStart [] ≠ [] := by decide
  have hoffset : ¬1440 ≤ (0 : Int).natAbs := by decide
  simp only [if_neg hend, ofFields?_eq, if_neg hoffset, Int.neg_zero, shift?_zero, pure,
    Except.pure]

end Moment

end Enrolment
