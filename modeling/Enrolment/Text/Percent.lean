import Enrolment.Text.Hex

/-!
# Percent signs

A byte in an address may be written as a percent sign and two hexadecimal
digits.  Nothing is refused: a percent sign without two digits stands for
itself, and so does every other byte.

## Main definitions

* `writtenByte?` — the byte that three bytes write.
* `percentDecode` — the bytes that a text of bytes writes.

## Main statements

* `percentDecode_cons_of_ne` — a byte that is no percent sign stands for itself.
* `percentDecode_of_writtenByte?` — a percent sign and two digits write one byte.
-/

namespace Enrolment.Text

/-- The byte that a percent sign and two digits write. -/
def writtenByte? (sign a b : UInt8) : Option UInt8 :=
  if sign = 37 then do
    let high ← hexValue? (Char.ofNat a.toNat)
    let low ← hexValue? (Char.ofNat b.toNat)
    return UInt8.ofNat (high * 16 + low)
  else none

/-- The bytes that are written; a percent sign without two digits stands for
itself. -/
def percentDecode : Bytes → Bytes
  | c :: a :: b :: rest =>
    match writtenByte? c a b with
    | some byte => byte :: percentDecode rest
    | none => c :: percentDecode (a :: b :: rest)
  | bs => bs

/-- A byte that is no percent sign stands for itself. -/
theorem percentDecode_cons_of_ne {c : UInt8} (h : c ≠ 37) (rest : Bytes) :
    percentDecode (c :: rest) = c :: percentDecode rest := by
  match rest with
  | [] => rfl
  | [_] => rfl
  | _ :: _ :: _ => simp [percentDecode, writtenByte?, h]

/-- A percent sign and two digits write one byte. -/
theorem percentDecode_of_writtenByte? {sign a b byte : UInt8}
    (h : writtenByte? sign a b = some byte) (rest : Bytes) :
    percentDecode (sign :: a :: b :: rest) = byte :: percentDecode rest := by
  rw [percentDecode, h]

end Enrolment.Text
