/-!
# The field of the curves

Both curves of this library live over the integers modulo `2 ^ 255 - 19`.  Its
elements are kept below the modulus.

## Main definitions

* `Field.modulus` — the modulus.
* `Field.add`, `Field.sub`, `Field.mul`, `Field.square`, `Field.power`,
  `Field.inverse` — arithmetic.
* `bitsOf` — the bits of a number, the highest first.
-/

namespace Enrolment.Crypto

/-- The lowest bits of a number, the highest of them first. -/
def bitsOf (count n : Nat) : List Bool := (List.range count).reverse.map n.testBit

namespace Field

/-- The modulus. -/
def modulus : Nat := Nat.pow 2 255 - 19

/-- The sum. -/
def add (a b : Nat) : Nat := (a + b) % modulus

/-- The difference. -/
def sub (a b : Nat) : Nat := (a + modulus - b) % modulus

/-- The negative. -/
def neg (a : Nat) : Nat := (modulus - a) % modulus

/-- The product. -/
def mul (a b : Nat) : Nat := a * b % modulus

/-- The square. -/
def square (a : Nat) : Nat := mul a a

/-- The power to an exponent of at most 255 bits. -/
def power (a n : Nat) : Nat :=
  (bitsOf 255 n).foldl (fun r bit => if bit then mul (square r) a else square r) 1

/-- The inverse; zero for zero. -/
def inverse (a : Nat) : Nat := power a (modulus - 2)

end Field

end Enrolment.Crypto
