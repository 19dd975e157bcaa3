import Enrolment.Text.Utf8

/-!
# Hexadecimal digits

Two digits a byte, the lower-case ones when written and any case when read.

## Main definitions

* `hexDigit`, `hexValue?` — a digit and its value.
* `toHex`, `ofHex?` — bytes written and read.
* `hexNumber`, `readHex?` — a number written and read.
-/

namespace Enrolment.Text

/-- The lower-case digit of a value below sixteen. -/
def hexDigit (n : Nat) : Char :=
  if n < 10 then Char.ofNat (48 + n) else Char.ofNat (87 + n)

/-- The value of a hexadecimal digit of either case. -/
def hexValue? (c : Char) : Option Nat :=
  if '0' ≤ c ∧ c ≤ '9' then some (c.toNat - 48)
  else if 'a' ≤ c ∧ c ≤ 'f' then some (c.toNat - 87)
  else if 'A' ≤ c ∧ c ≤ 'F' then some (c.toNat - 55)
  else none

/-- The digits of the bytes. -/
def toHex (bs : Bytes) : String :=
  String.ofList (bs.flatMap fun b => [hexDigit (b.toNat / 16), hexDigit (b.toNat % 16)])

/-- The bytes of an even number of digits. -/
def ofHexDigits? : List Char → Option Bytes
  | [] => some []
  | [_] => none
  | a :: b :: rest => do
    let high ← hexValue? a
    let low ← hexValue? b
    return UInt8.ofNat (high * 16 + low) :: (← ofHexDigits? rest)

/-- The bytes that the digits write. -/
def ofHex? (s : String) : Option Bytes := ofHexDigits? s.toList

/-- The number that the digits write; there is at least one. -/
def readHex? : List Char → Option Nat
  | [] => none
  | ds => ds.foldlM (fun n d => (hexValue? d).map (n * 16 + ·)) 0

/-- The digits of a number, without leading zeros. -/
def hexNumber (n : Nat) : String := String.ofList (Nat.toDigits 16 n)

end Enrolment.Text
