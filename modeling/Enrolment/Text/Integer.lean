/-!
# Integers from text

A setting or a header field that holds an integer is an optional sign and ASCII
digits.  The digits are read from the left, so that of two faults the one
further left is reported: a digit that makes the number too large for its
range, or a character that is no digit.

## Main definitions

* `IntegerError` — what is wrong with the text.
* `readNatural bound` — a natural number of at most `bound`.
* `readInteger low high` — an integer between the two bounds.
-/

namespace Enrolment.Text

/-- What is wrong with a text that should hold an integer. -/
inductive IntegerError
  /-- The text is empty. -/
  | empty
  /-- A character is no digit, or a sign stands alone. -/
  | invalidDigit
  /-- The number lies above the range. -/
  | tooLarge
  /-- The number lies below the range. -/
  | tooSmall
  deriving DecidableEq, Repr

/-- The wording of the error. -/
def IntegerError.message : IntegerError → String
  | .empty => "cannot parse integer from empty string"
  | .invalidDigit => "invalid digit found in string"
  | .tooLarge => "number too large to fit in target type"
  | .tooSmall => "number too small to fit in target type"

/-- The value of a decimal digit. -/
def digitValue? (c : Char) : Option Nat :=
  if c.isDigit then some (c.toNat - 48) else none

/-- Append the digits to a number that may not pass `bound`; `excess` is the
error of passing it. -/
def readDigits (bound : Nat) (excess : IntegerError) (value : Nat) :
    List Char → Except IntegerError Nat
  | [] => .ok value
  | c :: cs =>
    match digitValue? c with
    | none => .error .invalidDigit
    | some d =>
      if value * 10 + d ≤ bound then readDigits bound excess (value * 10 + d) cs
      else .error excess

/-- A natural number of at most `bound`: an optional plus sign and digits. -/
def readNatural (bound : Nat) : List Char → Except IntegerError Nat
  | [] => .error .empty
  | ['+'] => .error .invalidDigit
  | '+' :: cs => readDigits bound .tooLarge 0 cs
  | cs => readDigits bound .tooLarge 0 cs

/-- An integer from `-low` to `high`: an optional sign and digits. -/
def readInteger (low high : Nat) : List Char → Except IntegerError Int
  | [] => .error .empty
  | ['-'] => .error .invalidDigit
  | '-' :: cs => (readDigits low .tooSmall 0 cs).map fun n => -(n : Int)
  | cs => (readNatural high cs).map Int.ofNat

/-- The largest value of an unsigned integer of `bits` bits. -/
def maxUnsigned (bits : Nat) : Nat := Nat.pow 2 bits - 1

/-- The least natural number that a signed word of 64 bits does not hold,
`2 ^ 63`. -/
def int64Bound : Nat := 9223372036854775808

/-- An integer that a signed word of 64 bits holds. -/
def readInt64 (cs : List Char) : Except IntegerError Int :=
  readInteger int64Bound (int64Bound - 1) cs

/-- The decimal digits of an integer, with a minus sign if it is negative. -/
def integerText (n : Int) : String :=
  if n < 0 then "-" ++ Nat.repr n.natAbs else Nat.repr n.natAbs

end Enrolment.Text
