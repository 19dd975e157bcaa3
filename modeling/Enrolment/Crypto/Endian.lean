import Enrolment.Text.Utf8

/-!
# Numbers as bytes

Keys, counters and words of a digest are numbers of a fixed width, written with
the most or the least significant byte first.

## Main definitions

* `bigEndian`, `ofBigEndian` — the most significant byte first.
* `littleEndian`, `ofLittleEndian` — the least significant byte first.
-/

namespace Enrolment.Crypto

/-- A number in `width` bytes, the least significant one first. -/
def littleEndian : (width : Nat) → Nat → Bytes
  | 0, _ => []
  | width + 1, n => UInt8.ofNat n :: littleEndian width (n / 256)

/-- The number of bytes, the least significant one first. -/
def ofLittleEndian (bs : Bytes) : Nat := bs.foldr (fun b n => b.toNat + 256 * n) 0

/-- A number in `width` bytes, the most significant one first. -/
def bigEndian (width n : Nat) : Bytes := (littleEndian width n).reverse

/-- The number of bytes, the most significant one first. -/
def ofBigEndian (bs : Bytes) : Nat := bs.foldl (fun n b => n * 256 + b.toNat) 0

@[simp] theorem length_littleEndian (width n : Nat) : (littleEndian width n).length = width := by
  induction width generalizing n with
  | zero => rfl
  | succ width ih => simp [littleEndian, ih]

@[simp] theorem length_bigEndian (width n : Nat) : (bigEndian width n).length = width := by
  simp [bigEndian]

end Enrolment.Crypto
