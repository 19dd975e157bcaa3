import Enrolment.Text.Base64

/-!
# Base64 read back

Bytes that are written in Base64 are read back as they were.  The induction
takes three bytes at a time, as the writer does; the reader keeps the last group
for itself, so a whole group is read in two ways, with more after it and as the
last one.

## Main statements

* `Base64.decode_encode` — what is written is read back.
* `Base64.encode_chars` — the characters that are written.
-/

namespace Enrolment.Text.Base64

/-! ## Symbols -/

theorem value?_symbol {n : Nat} (h : n < 64) : value? (symbol n) = some n := by
  revert n
  decide

@[simp] theorem value?_pad : value? pad = none := rfl

/-- A symbol is a character of its own. -/
theorem symbol_char {n : Nat} (h : n < 64) :
    String.utf8EncodeChar (Char.ofNat (symbol n).toNat) = [symbol n] ∧
      ((Char.ofNat (symbol n).toNat).isAlphanum = true ∨ Char.ofNat (symbol n).toNat = '+' ∨
        Char.ofNat (symbol n).toNat = '/') := by
  revert n
  decide

/-! ## Groups -/

variable (a b c : UInt8)

/-- The values that a group of three bytes is written as. -/
theorem values_lt : a.toNat / 4 < 64 ∧ a.toNat % 4 * 16 + b.toNat / 16 < 64 ∧
    b.toNat % 16 * 4 + c.toNat / 64 < 64 ∧ c.toNat % 64 < 64 := by
  have ha : a.toNat < 256 := a.toNat_lt
  have hb : b.toNat < 256 := b.toNat_lt
  have hc : c.toNat < 256 := c.toNat_lt
  omega

/-- Four values hold the bytes that they were made of. -/
theorem triple_values : triple (a.toNat / 4) (a.toNat % 4 * 16 + b.toNat / 16)
    (b.toNat % 16 * 4 + c.toNat / 64) (c.toNat % 64) = [a, b, c] := by
  have hb : b.toNat < 256 := b.toNat_lt
  have hc : c.toNat < 256 := c.toNat_lt
  have h₁ : a.toNat / 4 * 4 + (a.toNat % 4 * 16 + b.toNat / 16) / 16 = a.toNat := by omega
  have h₂ : (a.toNat % 4 * 16 + b.toNat / 16) % 16 * 16 +
      (b.toNat % 16 * 4 + c.toNat / 64) / 4 = b.toNat := by omega
  have h₃ : (b.toNat % 16 * 4 + c.toNat / 64) % 4 * 64 + c.toNat % 64 = c.toNat := by omega
  simp only [triple, h₁, h₂, h₃, UInt8.ofNat_toNat]

/-- A last group of three bytes is read back. -/
theorem decodeLast_quad (offset : Nat) : decodeLast offset (quad a b c) = .ok [a, b, c] := by
  obtain ⟨h₁, h₂, h₃, h₄⟩ := values_lt a b c
  have hvalues : lastValues offset (quad a b c) = .ok ([a.toNat / 4,
      a.toNat % 4 * 16 + b.toNat / 16, b.toNat % 16 * 4 + c.toNat / 64, c.toNat % 64], []) := by
    simp [quad, lastValues, value?_symbol h₁, value?_symbol h₂, value?_symbol h₃,
      value?_symbol h₄, Except.map]
  simp only [decodeLast, hvalues]
  exact congrArg Except.ok (triple_values a b c)

/-- A last group of one byte is read back. -/
theorem decodeLast_one (offset : Nat) : decodeLast offset (lastQuad [a]) = .ok [a] := by
  have ha : a.toNat < 256 := a.toNat_lt
  have h₁ : a.toNat / 4 < 64 := by omega
  have h₂ : a.toNat % 4 * 16 < 64 := by omega
  have hvalues : lastValues offset (lastQuad [a]) =
      .ok ([a.toNat / 4, a.toNat % 4 * 16], [pad, pad]) := by
    simp [lastQuad, lastValues, value?_symbol h₁, value?_symbol h₂, Except.map]
  have hrest : a.toNat % 4 * 16 % 16 = 0 := by omega
  have hbyte : a.toNat / 4 * 4 + a.toNat % 4 * 16 / 16 = a.toNat := by omega
  simp only [decodeLast, hvalues]
  refine (if_pos hrest).trans ?_
  rw [hbyte, UInt8.ofNat_toNat]
  rfl

/-- A last group of two bytes is read back. -/
theorem decodeLast_two (offset : Nat) : decodeLast offset (lastQuad [a, b]) = .ok [a, b] := by
  have ha : a.toNat < 256 := a.toNat_lt
  have hb : b.toNat < 256 := b.toNat_lt
  have h₁ : a.toNat / 4 < 64 := by omega
  have h₂ : a.toNat % 4 * 16 + b.toNat / 16 < 64 := by omega
  have h₃ : b.toNat % 16 * 4 < 64 := by omega
  have hvalues : lastValues offset (lastQuad [a, b]) =
      .ok ([a.toNat / 4, a.toNat % 4 * 16 + b.toNat / 16, b.toNat % 16 * 4], [pad]) := by
    simp [lastQuad, lastValues, value?_symbol h₁, value?_symbol h₂, value?_symbol h₃, Except.map]
  have hrest : b.toNat % 16 * 4 % 4 = 0 := by omega
  have hfirst : a.toNat / 4 * 4 + (a.toNat % 4 * 16 + b.toNat / 16) / 16 = a.toNat := by omega
  have hsecond : (a.toNat % 4 * 16 + b.toNat / 16) % 16 * 16 + b.toNat % 16 * 4 / 4 =
      b.toNat := by omega
  simp only [decodeLast, hvalues]
  refine (if_pos hrest).trans ?_
  rw [hfirst, hsecond, UInt8.ofNat_toNat, UInt8.ofNat_toNat]
  rfl

/-- A group with more after it is read back. -/
theorem decodeFrom_quad (offset : Nat) (read : Bytes) (e : UInt8) (rest : Bytes) :
    decodeFrom offset read (quad a b c ++ e :: rest) =
      decodeFrom (offset + 4) ([c, b, a] ++ read) (e :: rest) := by
  obtain ⟨h₁, h₂, h₃, h₄⟩ := values_lt a b c
  simp only [quad, List.cons_append, List.nil_append, decodeFrom, value?_symbol h₁,
    value?_symbol h₂, value?_symbol h₃, value?_symbol h₄, triple_values]
  rfl

/-! ## Bytes -/

variable {a b c}

private theorem encodeOnto_eq : ∀ (bs written : Bytes),
    encodeOnto written bs = written.reverse ++ encodeBytes bs
  | a :: b :: c :: rest, written => by
    rw [encodeBytes, encodeOnto, encodeOnto, encodeOnto_eq rest,
      encodeOnto_eq rest ((quad a b c).reverse ++ [])]
    simp
  | [], _ | [_], _ | [_, _], _ => rfl

/-- Every three bytes are a group. -/
theorem encodeBytes_cons (rest : Bytes) :
    encodeBytes (a :: b :: c :: rest) = quad a b c ++ encodeBytes rest := by
  rw [encodeBytes, encodeOnto, encodeOnto_eq]
  simp

/-- Fewer than three bytes are the last group. -/
theorem encodeBytes_last {bs : Bytes} (h : bs.length < 3) : encodeBytes bs = lastQuad bs := by
  rw [encodeBytes, encodeOnto]
  · rfl
  · rintro a b c rest rfl
    simp only [List.length_cons] at h
    omega

theorem encodeBytes_ne_nil (a : UInt8) : ∀ bs : Bytes, encodeBytes (a :: bs) ≠ []
  | [] | [_] => by
    rw [encodeBytes_last (by simp)]
    simp [lastQuad]
  | b :: c :: rest => by
    rw [encodeBytes_cons]
    simp [quad]

/-- What is written is symbols and padding, four places at a time. -/
theorem encodeBytes_spec : ∀ bs : Bytes, (encodeBytes bs).length % 4 = 0 ∧
    ∀ x ∈ encodeBytes bs, (∃ n, n < 64 ∧ x = symbol n) ∨ x = pad
  | a :: b :: c :: rest => by
    obtain ⟨hlength, hsymbols⟩ := encodeBytes_spec rest
    obtain ⟨h₁, h₂, h₃, h₄⟩ := values_lt a b c
    rw [encodeBytes_cons]
    refine ⟨by simp [quad]; omega, ?_⟩
    intro x hx
    rcases List.mem_append.1 hx with hx | hx
    · simp only [quad, List.mem_cons, List.not_mem_nil, or_false] at hx
      rcases hx with rfl | rfl | rfl | rfl
      · exact .inl ⟨_, h₁, rfl⟩
      · exact .inl ⟨_, h₂, rfl⟩
      · exact .inl ⟨_, h₃, rfl⟩
      · exact .inl ⟨_, h₄, rfl⟩
    · exact hsymbols x hx
  | [] => by simp [encodeBytes_last, lastQuad]
  | [a] => by
    have ha : a.toNat < 256 := a.toNat_lt
    rw [encodeBytes_last (by simp)]
    refine ⟨by simp [lastQuad], ?_⟩
    simp only [lastQuad, List.mem_cons, List.not_mem_nil, or_false]
    rintro x (rfl | rfl | rfl | rfl)
    · exact .inl ⟨a.toNat / 4, by omega, rfl⟩
    · exact .inl ⟨a.toNat % 4 * 16, by omega, rfl⟩
    · exact .inr rfl
    · exact .inr rfl
  | [a, b] => by
    have ha : a.toNat < 256 := a.toNat_lt
    have hb : b.toNat < 256 := b.toNat_lt
    rw [encodeBytes_last (by simp)]
    refine ⟨by simp [lastQuad], ?_⟩
    simp only [lastQuad, List.mem_cons, List.not_mem_nil, or_false]
    rintro x (rfl | rfl | rfl | rfl)
    · exact .inl ⟨a.toNat / 4, by omega, rfl⟩
    · exact .inl ⟨a.toNat % 4 * 16 + b.toNat / 16, by omega, rfl⟩
    · exact .inl ⟨b.toNat % 16 * 4, by omega, rfl⟩
    · exact .inr rfl

/-- The groups are read back in their order. -/
theorem decodeFrom_encodeBytes : ∀ (bs : Bytes) (offset : Nat) (read : Bytes),
    decodeFrom offset read (encodeBytes bs) = .ok (read.reverse ++ bs)
  | a :: b :: c :: d :: rest, offset, read => by
    obtain ⟨e, more, he⟩ := List.exists_cons_of_ne_nil (encodeBytes_ne_nil d rest)
    rw [encodeBytes_cons, he, decodeFrom_quad, ← he, decodeFrom_encodeBytes (d :: rest)]
    simp
  | [a, b, c], offset, read => by
    rw [encodeBytes_cons, encodeBytes_last (by simp)]
    exact congrArg (Except.map (read.reverse ++ ·)) (decodeLast_quad a b c offset)
  | [], _, read => by simp [encodeBytes_last, lastQuad, decodeFrom]
  | [a], offset, read => by
    rw [encodeBytes_last (by simp)]
    exact congrArg (Except.map (read.reverse ++ ·)) (decodeLast_one a offset)
  | [a, b], offset, read => by
    rw [encodeBytes_last (by simp)]
    exact congrArg (Except.map (read.reverse ++ ·)) (decodeLast_two a b offset)

theorem decodeBytes_encodeBytes (bs : Bytes) : decodeBytes (encodeBytes bs) = .ok bs := by
  have hlength := (encodeBytes_spec bs).1
  have hread := decodeFrom_encodeBytes bs 0 []
  unfold decodeBytes
  split
  · rename_i hnone
    rw [List.getLast?_eq_none_iff.1 hnone] at hread
    exact hread
  · rw [if_neg (by omega)]
    exact hread

/-! ## Texts -/

/-- What is written is letters, digits, and three more characters. -/
theorem encode_chars {bs : Bytes} {x : Char} (h : x ∈ (encode bs).toList) :
    x.isAlphanum = true ∨ x = '+' ∨ x = '/' ∨ x = '=' := by
  rw [encode, String.toList_ofList] at h
  obtain ⟨y, hy, rfl⟩ := List.mem_map.1 h
  rcases (encodeBytes_spec bs).2 y hy with ⟨n, hn, rfl⟩ | rfl
  · rcases (symbol_char hn).2 with h | h | h
    · exact .inl h
    · exact .inr (.inl h)
    · exact .inr (.inr (.inl h))
  · exact .inr (.inr (.inr rfl))

/-- Every place takes one byte. -/
theorem bytesOf_encode (bs : Bytes) : bytesOf (encode bs) = encodeBytes bs := by
  have hbyte : ∀ x ∈ encodeBytes bs, String.utf8EncodeChar (Char.ofNat x.toNat) = [x] := by
    intro x hx
    rcases (encodeBytes_spec bs).2 x hx with ⟨n, hn, rfl⟩ | rfl
    · exact (symbol_char hn).1
    · rfl
  rw [bytesOf, encode, String.toList_ofList, Text.encode, List.flatMap_map, List.flatMap_def,
    List.map_congr_left hbyte, ← List.flatMap_def, List.flatMap_singleton']

/-- What is written is read back. -/
theorem decode_encode (bs : Bytes) : decode (encode bs) = .ok bs := by
  rw [decode, bytesOf_encode, decodeBytes_encodeBytes]

end Enrolment.Text.Base64
