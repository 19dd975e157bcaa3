/-!
# Finite doubles

The numbers of a document that are not integers are the finite binary
floating-point numbers of 64 bits.  A `Double` is such a number by its bits, so
that two of them can be told apart and their values compared exactly, in
natural numbers.

## Main definitions

* `Double` — the bits, with a proof that they are no infinity and no NaN.
* `Double.scaled` — the magnitude as `m * 2 ^ q`.
* `Double.same` — equality of values: the two zeros are one value.
* `Double.ofDecimal?` — a decimal read with one rounding for its digits and one
  for its power of ten.
-/

namespace Enrolment

/-- The number of values of the fraction field, `2 ^ 52`. -/
def fractionCount : Nat := 4503599627370496

/-- The number of values of the exponent field, `2 ^ 11`. -/
def exponentCount : Nat := 2048

/-- The place value of the sign bit, `2 ^ 63`. -/
def signValue : Nat := 9223372036854775808

/-- A finite double, by its bits. -/
structure Double where
  /-- Sign, exponent field and fraction field. -/
  bits : UInt64
  /-- The exponent field is not the one of the infinities and NaNs. -/
  finite : bits.toNat / fractionCount % exponentCount ≠ 2047 := by decide
  deriving DecidableEq

namespace Double

/-- The sign bit is set. -/
def isNegative (x : Double) : Bool := signValue ≤ x.bits.toNat

/-- The fraction field. -/
def fractionField (x : Double) : Nat := x.bits.toNat % fractionCount

/-- The exponent field. -/
def exponentField (x : Double) : Nat := x.bits.toNat / fractionCount % exponentCount

/-- The magnitude is `m * 2 ^ q` for the pair `(m, q)`. -/
def scaled (x : Double) : Nat × Int :=
  if x.exponentField = 0 then (x.fractionField, -1074)
  else (x.fractionField + fractionCount, (x.exponentField : Int) - 1075)

/-- Zero, of either sign. -/
def isZero (x : Double) : Bool := x.exponentField = 0 && x.fractionField = 0

/-- The two numbers have one value. -/
def same (x y : Double) : Bool := x.bits = y.bits || (x.isZero && y.isZero)

@[simp] theorem same_self (x : Double) : x.same x = true := by simp [same]

/-- The double that a floating-point number is, if it is finite. -/
def ofFloat? (x : Float) : Option Double :=
  let bits := x.toBits
  if h : bits.toNat / fractionCount % exponentCount ≠ 2047 then some ⟨bits, h⟩ else none

/-- The power of ten nearest to `10 ^ k`. -/
def powerOfTen (k : Nat) : Float := Float.ofScientific 1 false k

/-- Divide by `10 ^ k`, in steps that each divide by a power of ten that is a
finite number. -/
def divideByPower (k : Nat) (x : Float) : Float :=
  if k ≤ 308 then x / powerOfTen k
  else if x == 0 then x
  else divideByPower (k - 308) (x / powerOfTen 308)
termination_by k

/-- The magnitude `digits * 10 ^ exponent`, rounded once for the digits and once
for each power of ten; none if it is too large. -/
def magnitude (digits : Nat) (exponent : Int) : Option Float :=
  let x := (UInt64.ofNat digits).toFloat
  if exponent < 0 then some (divideByPower exponent.natAbs x)
  else if exponent ≤ 308 then
    let y := x * powerOfTen exponent.natAbs
    if y.isInf then none else some y
  else if x == 0 then some x
  else none

/-- The number with the sign, digits (below `2 ^ 64`) and power of ten. -/
def ofDecimal? (negative : Bool) (digits : Nat) (exponent : Int) : Option Double := do
  let x ← magnitude digits exponent
  ofFloat? (if negative then -x else x)

end Double

end Enrolment
