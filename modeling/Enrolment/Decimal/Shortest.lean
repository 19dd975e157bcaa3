import Enrolment.Decimal.Double

/-!
# The shortest decimal of a double

A double is written with the fewest decimal digits that read back as it, and
among those with the decimal nearest to it; of two equally near ones the even
one is taken.

The reals that round to `m * 2 ^ q` are the interval between the midpoints to
its two neighbours, ends included exactly if `m` is even.  A decimal grid of
step `10 ^ k` meets the interval only if one of the two grid points around the
number lies in it, so it is enough to look at those two, on coarser grids first.
All comparisons are between natural numbers.

## Main definitions

* `Decimal` — digits and a power of ten.
* `Double.shortest` — the shortest decimal of a positive number.
-/

namespace Enrolment

/-- The number `digits * 10 ^ exponent`. -/
structure Decimal where
  /-- The digits, as a number. -/
  digits : Nat
  /-- The power of ten of the last digit. -/
  exponent : Int
  deriving DecidableEq, Repr

namespace Double

/-- The point `m * 2 ^ q` and the two midpoints around it, each four times as
large so that they are whole multiples of `2 ^ q`. -/
structure Interval where
  /-- The lower midpoint. -/
  low : Nat
  /-- The point. -/
  mid : Nat
  /-- The upper midpoint. -/
  high : Nat
  /-- The midpoints round to the point. -/
  closed : Bool
  /-- The power of two of the unit. -/
  unit : Int

/-- The reals that round to the number.  The neighbour below a power of two is
half as far away as the one above it. -/
def interval (x : Double) : Interval :=
  let (m, q) := x.scaled
  { low := if x.fractionField = 0 ∧ 1 < x.exponentField then 4 * m - 1 else 4 * m - 2
    mid := 4 * m
    high := 4 * m + 2
    closed := m % 2 = 0
    unit := q - 2 }

/-- The multiples of `10 ^ k` that the interval contains, among the two around
its point; the nearer one if it contains both. -/
def onGrid (i : Interval) (k : Int) : Option Nat :=
  let up := Nat.pow 2 i.unit.toNat * Nat.pow 10 (-k).toNat
  let step := Nat.pow 2 (-i.unit).toNat * Nat.pow 10 k.toNat
  let below := i.mid * up / step
  let inside := fun d : Nat =>
    let p := d * step
    if i.closed then i.low * up ≤ p ∧ p ≤ i.high * up else i.low * up < p ∧ p < i.high * up
  let rest := i.mid * up % step
  if inside below then
    if inside (below + 1) then
      if 2 * rest < step then some below
      else if step < 2 * rest then some (below + 1)
      else if below % 2 = 0 then some below
      else some (below + 1)
    else some below
  else if inside (below + 1) then some (below + 1)
  else none

/-- The first hit on the grids of step `10 ^ k`, `10 ^ (k - 1)`, … -/
def firstHit (i : Interval) : Nat → Int → Option Decimal
  | 0, _ => none
  | steps + 1, k =>
    match onGrid i k with
    | some d => some ⟨d, k⟩
    | none => firstHit i steps (k - 1)

/-- A power of ten at least as large as the number and at most a hundred times
as large. -/
def coarsest (x : Double) : Int :=
  let (m, q) := x.scaled
  ((m.log2 : Int) + q + 1) * 30103 / 100000 + 1

/-- The shortest decimal of a number other than zero, its sign left aside.
Seventeen digits always tell a double apart, so the search ends. -/
def shortest (x : Double) : Decimal :=
  (firstHit x.interval 20 x.coarsest).getD ⟨0, 0⟩

end Double

end Enrolment
