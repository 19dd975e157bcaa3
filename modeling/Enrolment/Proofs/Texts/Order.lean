import Enrolment.Proofs.Texts.Utf8

/-!
# The order of texts

Texts are compared character by character.  Whoever compares them byte by byte
in UTF-8 finds the same order: a character with a greater number takes at least
as many bytes, and is greater in the first byte that differs.

## Main statements

* `bytesOf_lt_iff` — texts stand in the order of their bytes.
-/

namespace Enrolment.Text

/-! ## One character -/

namespace Utf8

theorem cons_byte_lt_iff {m n : Nat} (hm : m < 256) (hn : n < 256) {s t : Bytes} :
    UInt8.ofNat m :: s < UInt8.ofNat n :: t ↔ m < n ∨ m = n ∧ s < t := by
  rw [List.cons_lt_cons_iff, UInt8.lt_iff_toNat_lt, ← UInt8.toNat_inj, toNat_byte hm, toNat_byte hn]

/-- What begins with the smaller character has the smaller bytes, whatever
follows. -/
theorem encoded_append_lt {a b : Char} (h : a < b) (s t : Bytes) :
    String.utf8EncodeChar a ++ s < String.utf8EncodeChar b ++ t := by
  have hlt : a.toNat < b.toNat := h
  have ha : a.val.toNat = a.toNat := rfl
  have hb : b.val.toNat = b.toNat := rfl
  have hvalid := toNat_cases b
  have hdigits (k : Nat) : k / 4096 = k / 64 / 64 ∧ k / 262144 = k / 64 / 64 / 64 := by omega
  unfold String.utf8EncodeChar
  simp only [ha, hb, hdigits]
  generalize a.toNat = m at hlt
  generalize b.toNat = n at hlt hvalid
  -- A character of more bytes begins with a larger one; of two with as many, the digits to the
  -- base 64 are compared from the left.
  repeat' split
  all_goals
    simp (disch := omega) only [List.cons_append, List.nil_append, cons_byte_lt_iff]
    omega

end Utf8

/-! ## Texts -/

variable {xs ys : List Char} {a b : String}

/-- Writing in UTF-8 keeps the order. -/
theorem encode_lt (h : xs < ys) : encode xs < encode ys := by
  induction h with
  | @nil c cs =>
    obtain ⟨first, rest, hencoded⟩ :=
      List.exists_cons_of_ne_nil (String.utf8EncodeChar_ne_nil (c := c))
    rw [encode_cons, hencoded]
    exact List.nil_lt_cons first _
  | @rel x xs y ys hxy =>
    rw [encode_cons, encode_cons]
    exact Utf8.encoded_append_lt hxy _ _
  | @cons c xs ys _ ih =>
    rw [encode_cons, encode_cons]
    exact List.append_left_lt ih

/-- **Texts stand in the order of their bytes.** -/
theorem bytesOf_lt_iff : bytesOf a < bytesOf b ↔ a < b := by
  refine ⟨fun hbytes => String.not_le.1 fun hle => ?_, encode_lt⟩
  by_cases heq : b = a
  · subst heq
    exact List.lt_irrefl _ hbytes
  · have hlt : b < a := Std.lt_of_le_of_ne hle heq
    exact List.lt_asymm hbytes (encode_lt hlt)

end Enrolment.Text
