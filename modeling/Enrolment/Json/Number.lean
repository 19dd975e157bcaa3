import Enrolment.Decimal.Shortest
import Enrolment.Text.Integer

/-!
# Numbers of a document

A number stands for an integer or for a double.  Digits alone are an integer as
long as it fits in 64 bits; everything else, and minus zero, is a double.  An
integer and a double are never equal, whatever their values.

A double is written in its shortest digits: positionally, with at least one
fractional place, from `0.00001` up to below `10 ^ 16`, and with a signed
exponent otherwise.

## Main definitions

* `Numeral` — a number as its digits stand in the text.
* `Number` — its value; `Numeral.number?` gives it, unless it is too large.
* `Number.text` — the number as it is written.
-/

namespace Enrolment.Json

/-- A number as its digits stand in the text. -/
structure Numeral where
  /-- It starts with a minus sign. -/
  negative : Bool
  /-- The digits before the point. -/
  whole : List Nat
  /-- The digits after the point; none if there is no point. -/
  fraction : List Nat
  /-- Whether the exponent is negative, and its digits; none if there is no
  exponent. -/
  exponent : Option (Bool × List Nat)
  deriving DecidableEq, Repr

/-- The value of a number. -/
inductive Number
  /-- A natural number. -/
  | natural (n : UInt64)
  /-- The negative number `-(n + 1)`. -/
  | negSucc (n : Fin Text.int64Bound)
  /-- A double. -/
  | double (x : Double)
  deriving DecidableEq

namespace Number

/-- Equality of values, which keeps integers and doubles apart. -/
def same : Number → Number → Bool
  | .natural m, .natural n => m = n
  | .negSucc m, .negSucc n => m = n
  | .double x, .double y => x.same y
  | _, _ => false

@[simp] theorem same_self (n : Number) : n.same n = true := by cases n <;> simp [same]

/-- The decimal digits of a number, as characters. -/
def digitChars (n : Nat) : List Char := Nat.toDigits 10 n

/-- A positive decimal, positionally or with an exponent. -/
def decimalText (d : Decimal) : List Char :=
  let ds := digitChars d.digits
  let places := (ds.length : Int) + d.exponent
  if -5 < places ∧ places ≤ 16 then
    if places ≤ 0 then '0' :: '.' :: (List.replicate (-places).toNat '0' ++ ds)
    else if d.exponent < 0 then ds.take places.toNat ++ '.' :: ds.drop places.toNat
    else ds ++ List.replicate d.exponent.toNat '0' ++ ['.', '0']
  else
    let mantissa := match ds with
      | [] => []
      | [c] => [c]
      | c :: rest => c :: '.' :: rest
    let power := places - 1
    mantissa ++ 'e' :: (if power < 0 then '-' else '+') :: digitChars power.natAbs

/-- A double as it is written. -/
def doubleText (x : Double) : List Char :=
  let magnitude := if x.isZero then ['0', '.', '0'] else decimalText x.shortest
  if x.isNegative then '-' :: magnitude else magnitude

/-- The number as it is written. -/
def text : Number → List Char
  | .natural n => digitChars n.toNat
  | .negSucc n => '-' :: digitChars (n.val + 1)
  | .double x => doubleText x

end Number

namespace Numeral

/-- Append digits to a number as long as it stays below `2 ^ 64`, and count the
digits left over. -/
def significand (value : Nat) : List Nat → Nat × Nat
  | [] => (value, 0)
  | d :: ds =>
    if value * 10 + d < UInt64.size then significand (value * 10 + d) ds
    else (value, ds.length + 1)

/-- A power of ten beyond which nothing depends on the power. -/
def tooMuch : Nat := 4294967296

/-- The value of a string of digits, where whatever is too much counts as
`tooMuch`. -/
def digitsValue (ds : List Nat) : Nat := ds.foldl (fun n d => min (n * 10 + d) tooMuch) 0

/-- The double of the leading digits that fit in 64 bits, scaled by the power of
ten that the other digits and the exponent make. -/
def double? (n : Numeral) : Option Double :=
  let (whole, dropped) := significand 0 n.whole
  let (digits, cut) := significand whole n.fraction
  let places : Int := (dropped : Int) - ((n.fraction.length - cut : Nat) : Int)
  let power : Int := match n.exponent with
    | none => 0
    | some (true, ds) => -(digitsValue ds : Int)
    | some (false, ds) => digitsValue ds
  Double.ofDecimal? n.negative digits (places + power)

/-- The value of a numeral; none if it is too large for a double. -/
def number? (n : Numeral) : Option Number :=
  let (value, dropped) := significand 0 n.whole
  if n.fraction = [] ∧ n.exponent = none ∧ dropped = 0 then
    if n.negative then
      if h : 0 < value ∧ value ≤ Text.int64Bound then some (.negSucc ⟨value - 1, by omega⟩)
      else n.double?.map .double
    else some (.natural (UInt64.ofNat value))
  else n.double?.map .double

end Numeral

end Enrolment.Json
