import Enrolment.Text.Utf8

/-!
# Characters that travel as bytes

Bytes that spell characters are read back as these characters, and as nothing
else: every character is written in one of four ways, by its size, and the first
byte tells which.

## Main statements

* `decode_encode`, `text?_bytesOf` — reading undoes writing.
-/

namespace Enrolment.Text

namespace Utf8

variable {read : List (Option Char)} {rest : Bytes} {a b c d : UInt8} {n : Nat}

/-! ## One character -/

theorem toNat_byte (h : n < 256) : (UInt8.ofNat n).toNat = n := UInt8.toNat_ofNat_of_lt h

/-- A character is told by its number. -/
theorem ofNat_toNat_of_eq {c : Char} (h : n = c.toNat) : Char.ofNat n = c := by
  rw [h, Char.ofNat_toNat]

/-- The numbers of characters. -/
theorem toNat_cases (c : Char) : c.toNat < 0xd800 ∨ 0xdfff < c.toNat ∧ c.toNat < 0x110000 :=
  c.valid

theorem decodeOnto_one (ha : a.toNat < 0x80) :
    decodeOnto read (a :: rest) = decodeOnto (some (Char.ofNat a.toNat) :: read) rest := by
  have hone : a < 0x80 := UInt8.lt_iff_toNat_lt.2 ha
  rw [decodeOnto.eq_def]
  simp only [hone, if_true]

theorem decodeOnto_two (ha : 0xc2 ≤ a.toNat ∧ a.toNat ≤ 0xdf)
    (hb : 0x80 ≤ b.toNat ∧ b.toNat ≤ 0xbf) :
    decodeOnto read (a :: b :: rest) =
      decodeOnto (some (Char.ofNat ((a.toNat - 0xc0) * 64 + (b.toNat - 0x80))) :: read) rest := by
  have hone : ¬a < 0x80 := by rw [UInt8.lt_iff_toNat_lt]; simp; omega
  have htwo : (0xc2 ≤ a && a ≤ 0xdf) = true := by
    simp [UInt8.le_iff_toNat_le]; omega
  have htail : isTail b = true := by simp [isTail, UInt8.le_iff_toNat_le]; omega
  rw [decodeOnto.eq_def]
  simp only [hone, htwo, htail, if_true, if_false]
  rfl

theorem decodeOnto_three (ha : 0xe0 ≤ a.toNat ∧ a.toNat ≤ 0xef)
    (hb : 0x80 ≤ b.toNat ∧ b.toNat ≤ 0xbf) (hlow : a.toNat = 0xe0 → 0xa0 ≤ b.toNat)
    (hhigh : a.toNat = 0xed → b.toNat ≤ 0x9f) (hc : 0x80 ≤ c.toNat ∧ c.toNat ≤ 0xbf) :
    decodeOnto read (a :: b :: c :: rest) =
      decodeOnto (some (Char.ofNat (((a.toNat - 0xe0) * 64 + (b.toNat - 0x80)) * 64 +
        (c.toNat - 0x80))) :: read) rest := by
  have hone : ¬a < 0x80 := by rw [UInt8.lt_iff_toNat_lt]; simp; omega
  have htwo : (0xc2 ≤ a && a ≤ 0xdf) = false := by simp [UInt8.lt_iff_toNat_lt]; omega
  have hthree : (0xe0 ≤ a && a ≤ 0xef) = true := by simp [UInt8.le_iff_toNat_le]; omega
  have hfollow : mayFollowOfThree a b = true := by
    have hleast : (if a = 0xe0 then 0xa0 else 0x80 : UInt8) ≤ b := by
      split
      · rename_i h
        exact UInt8.le_iff_toNat_le.2 (hlow (h ▸ rfl))
      · exact UInt8.le_iff_toNat_le.2 hb.1
    have hmost : b ≤ (if a = 0xed then 0x9f else 0xbf : UInt8) := by
      split
      · rename_i h
        exact UInt8.le_iff_toNat_le.2 (hhigh (h ▸ rfl))
      · exact UInt8.le_iff_toNat_le.2 hb.2
    simp [mayFollowOfThree, hleast, hmost]
  have htail : isTail c = true := by simp [isTail, UInt8.le_iff_toNat_le]; omega
  rw [decodeOnto.eq_def]
  simp only [hone, htwo, hthree, hfollow, htail, if_true, if_false]
  rfl

theorem decodeOnto_four (ha : 0xf0 ≤ a.toNat ∧ a.toNat ≤ 0xf4)
    (hb : 0x80 ≤ b.toNat ∧ b.toNat ≤ 0xbf) (hlow : a.toNat = 0xf0 → 0x90 ≤ b.toNat)
    (hhigh : a.toNat = 0xf4 → b.toNat ≤ 0x8f) (hc : 0x80 ≤ c.toNat ∧ c.toNat ≤ 0xbf)
    (hd : 0x80 ≤ d.toNat ∧ d.toNat ≤ 0xbf) :
    decodeOnto read (a :: b :: c :: d :: rest) =
      decodeOnto (some (Char.ofNat ((((a.toNat - 0xf0) * 64 + (b.toNat - 0x80)) * 64 +
        (c.toNat - 0x80)) * 64 + (d.toNat - 0x80))) :: read) rest := by
  have hone : ¬a < 0x80 := by rw [UInt8.lt_iff_toNat_lt]; simp; omega
  have htwo : (0xc2 ≤ a && a ≤ 0xdf) = false := by simp [UInt8.lt_iff_toNat_lt]; omega
  have hthree : (0xe0 ≤ a && a ≤ 0xef) = false := by simp [UInt8.lt_iff_toNat_lt]; omega
  have hfour : (0xf0 ≤ a && a ≤ 0xf4) = true := by simp [UInt8.le_iff_toNat_le]; omega
  have hfollow : mayFollowOfFour a b = true := by
    have hleast : (if a = 0xf0 then 0x90 else 0x80 : UInt8) ≤ b := by
      split
      · rename_i h
        exact UInt8.le_iff_toNat_le.2 (hlow (h ▸ rfl))
      · exact UInt8.le_iff_toNat_le.2 hb.1
    have hmost : b ≤ (if a = 0xf4 then 0x8f else 0xbf : UInt8) := by
      split
      · rename_i h
        exact UInt8.le_iff_toNat_le.2 (hhigh (h ▸ rfl))
      · exact UInt8.le_iff_toNat_le.2 hb.2
    simp [mayFollowOfFour, hleast, hmost]
  have htails : isTail c = true ∧ isTail d = true := by
    simp [isTail, UInt8.le_iff_toNat_le]; omega
  rw [decodeOnto.eq_def]
  simp only [hone, htwo, hthree, hfour, hfollow, htails.1, htails.2, if_true, if_false]
  rfl

/-- A character that was written is read next. -/
theorem decodeOnto_encode (read : List (Option Char)) (c : Char) (rest : Bytes) :
    decodeOnto read (String.utf8EncodeChar c ++ rest) = decodeOnto (some c :: read) rest := by
  have hvalid := toNat_cases c
  have hval : c.val.toNat = c.toNat := rfl
  unfold String.utf8EncodeChar
  simp only [hval]
  generalize hn : c.toNat = n at hvalid
  split
  · rename_i h
    rw [List.singleton_append, decodeOnto_one (by rw [toNat_byte (by omega)]; omega),
      toNat_byte (by omega), ofNat_toNat_of_eq hn.symm]
  split
  · rw [List.cons_append, List.singleton_append, decodeOnto_two
      (by rw [toNat_byte (by omega)]; omega) (by rw [toNat_byte (by omega)]; omega),
      toNat_byte (by omega), toNat_byte (by omega), ofNat_toNat_of_eq (c := c) (by omega)]
  split
  · rw [List.cons_append, List.cons_append, List.singleton_append, decodeOnto_three
      (by rw [toNat_byte (by omega)]; omega) (by rw [toNat_byte (by omega)]; omega)
      (by rw [toNat_byte (by omega), toNat_byte (by omega)]; omega)
      (by rw [toNat_byte (by omega), toNat_byte (by omega)]; omega)
      (by rw [toNat_byte (by omega)]; omega),
      toNat_byte (by omega), toNat_byte (by omega), toNat_byte (by omega),
      ofNat_toNat_of_eq (c := c) (by omega)]
  · rw [List.cons_append, List.cons_append, List.cons_append, List.singleton_append,
      decodeOnto_four
      (by rw [toNat_byte (by omega)]; omega) (by rw [toNat_byte (by omega)]; omega)
      (by rw [toNat_byte (by omega), toNat_byte (by omega)]; omega)
      (by rw [toNat_byte (by omega), toNat_byte (by omega)]; omega)
      (by rw [toNat_byte (by omega)]; omega) (by rw [toNat_byte (by omega)]; omega),
      toNat_byte (by omega), toNat_byte (by omega), toNat_byte (by omega), toNat_byte (by omega),
      ofNat_toNat_of_eq (c := c) (by omega)]

end Utf8

theorem encode_cons (c : Char) (cs : List Char) :
    encode (c :: cs) = String.utf8EncodeChar c ++ encode cs := List.flatMap_cons

/-- **Bytes that spell characters are read back as these.** -/
theorem decode_encode (cs : List Char) : decode (encode cs) = cs.map some := by
  have honto (read : List (Option Char)) :
      Utf8.decodeOnto read (encode cs) = read.reverse ++ cs.map some := by
    induction cs generalizing read with
    | nil => simp [encode, Utf8.decodeOnto]
    | cons c cs ih =>
      rw [encode_cons, Utf8.decodeOnto_encode, ih]
      simp
  exact honto []

/-- A text is read back from its bytes. -/
theorem text?_bytesOf (s : String) : text? (bytesOf s) = some s := by
  have hdecode : decode (bytesOf s) = s.toList.map some := decode_encode _
  simp [text?, hdecode]

end Enrolment.Text
