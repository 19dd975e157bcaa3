import Enrolment.Text.Split

/-!
# Labels in ASCII

A label that is not ASCII is written as its ASCII characters, a hyphen, and the
places of the others.  The others are taken in ascending order; each is told by
its distance from the one before it, counted in characters and places in the label
at once.  A distance is a number whose digits run up to 35, the least one first;
each digit has a threshold below which it is the last, and the thresholds follow a
bias that adapts to the distances.

## Main definitions

* `threshold`, `adapt` — the thresholds of the digits and their bias.
* `encode` — a label in ASCII.
* `decode?` — the label that ASCII characters write.
-/

namespace Enrolment.Domain.Punycode

/-- The digits below 26 are letters, the others decimal digits. -/
def digit (n : Nat) : Char := Char.ofNat (if n < 26 then 97 + n else 22 + n)

/-- The value of a digit. -/
def digitValue? (c : Char) : Option Nat :=
  if 'a' ≤ c ∧ c ≤ 'z' then some (c.toNat - 97)
  else if '0' ≤ c ∧ c ≤ '9' then some (c.toNat - 22)
  else none

/-- The threshold of the digit with the given index. -/
def threshold (bias index : Nat) : Nat := max 1 (min 26 (36 * (index + 1) - bias))

/-- A digit can be the last one, and can be another. -/
theorem threshold_bounds (bias index : Nat) :
    1 ≤ threshold bias index ∧ threshold bias index ≤ 26 := by
  unfold threshold; omega

/-- A distance cut down to a bias. -/
def settle (delta steps : Nat) : Nat :=
  if 455 < delta then settle (delta / 35) (steps + 36) else steps + 36 * delta / (delta + 38)
termination_by delta
decreasing_by omega

/-- The bias after a distance, when the label has `length` characters; the first
distance of a label counts for less. -/
def adapt (delta length : Nat) (isFirst : Bool) : Nat :=
  let delta := if isFirst then delta / 700 else delta / 2
  settle (delta + delta / length) 0

/-- The character is ASCII. -/
def isAscii (c : Char) : Bool := c.toNat < 128

/-! ## Writing -/

/-- The digits of a distance from the index on. -/
def digits (bias index n : Nat) : List Char :=
  let t := threshold bias index
  if n < t then [digit n]
  else digit (t + (n - t) % (36 - t)) :: digits bias (index + 1) ((n - t) / (36 - t))
termination_by n
decreasing_by
  have h := threshold_bounds bias index
  have hle := Nat.div_le_self (n - threshold bias index) (36 - threshold bias index)
  omega

/-- A label as far as it has been written. -/
structure Encoder where
  /-- What has been written. -/
  written : List Char
  /-- The distance so far. -/
  delta : Nat
  /-- The bias. -/
  bias : Nat
  /-- The number of characters that have been taken. -/
  taken : Nat

/-- Pass over a character of the label while those with the code `n` are
taken. -/
def Encoder.pass (n basic : Nat) (e : Encoder) (c : Char) : Encoder :=
  if c.toNat < n then { e with delta := e.delta + 1 }
  else if c.toNat = n then
    { written := e.written ++ digits e.bias 0 e.delta
      delta := 0
      bias := adapt e.delta (e.taken + 1) (e.taken == basic)
      taken := e.taken + 1 }
  else e

/-- Take the characters with the codes in turn, where those below `next` have been
taken. -/
def Encoder.take (label : List Char) (basic next : Nat) (e : Encoder) : List Nat → Encoder
  | [] => e
  | n :: ns =>
    let e := { e with delta := e.delta + (n - next) * (e.taken + 1) }
    let e := label.foldl (Encoder.pass n basic) e
    Encoder.take label basic (n + 1) { e with delta := e.delta + 1 } ns

/-- The codes of a label that are not ASCII, in ascending order. -/
def codes (label : List Char) : List Nat :=
  (((label.filter fun c => !isAscii c).map Char.toNat).mergeSort fun a b => a ≤ b).eraseReps

/-- The label in ASCII. -/
def encode (label : List Char) : List Char :=
  let plain := label.filter isAscii
  let basic := plain.length
  let start := if plain.isEmpty then [] else plain ++ ['-']
  (Encoder.take label basic 128 ⟨start, 0, 72, basic⟩ (codes label)).written

/-! ## Reading -/

/-- The largest number that is read. -/
def largest : Nat := 4294967295

/-- A distance onto a value, from the digit with the index on, and what follows
it. -/
def readDistance? (bias index weight value : Nat) : List Char → Option (Nat × List Char)
  | [] => none
  | c :: rest =>
    match digitValue? c with
    | none => none
    | some d =>
      let t := threshold bias index
      if largest < value + d * weight then none
      else if d < t then some (value + d * weight, rest)
      else if largest < weight * (36 - t) then none
      else readDistance? bias (index + 1) (weight * (36 - t)) (value + d * weight) rest

/-- A distance takes at least one digit. -/
theorem length_of_readDistance? {bias index weight value n : Nat} {cs rest : List Char}
    (h : readDistance? bias index weight value cs = some (n, rest)) :
    rest.length < cs.length := by
  fun_induction readDistance? bias index weight value cs with
  | case1 => simp at h
  | case2 => simp at h
  | case3 => simp at h
  | case4 index weight value c cs d _ _ _ _ =>
    simp only [Option.some.injEq, Prod.mk.injEq] at h
    simp [h.2]
  | case5 => simp at h
  | case6 index weight value c cs d _ _ _ _ _ ih => exact Nat.lt_succ_of_lt (ih h)

/-- The code is one of a character. -/
def isCode (n : Nat) : Bool := n < 0xd800 || (0xdfff < n && n < 0x110000)

/-- Put the characters that the distances tell into a label, where the last one
had the code `n` and stood before `place`. -/
def insertAll (bias n place : Nat) (label : List Char) (cs : List Char) : Option (List Char) :=
  if cs.isEmpty then some label
  else
    match _h : readDistance? bias 0 1 place cs with
    | none => none
    | some (value, rest) =>
      let length := label.length + 1
      let n := n + value / length
      if isCode n then
        insertAll (adapt (value - place) length (place == 0)) n (value % length + 1)
          (label.insertIdx (value % length) (Char.ofNat n)) rest
      else none
termination_by cs.length
decreasing_by exact length_of_readDistance? _h

/-- What stands before the last hyphen, and what stands after it. -/
def cutAtLastHyphen (cs : List Char) : List Char × List Char :=
  match Text.cutAt '-' cs.reverse with
  | some (after, before) => if before.isEmpty then ([], cs) else (before.reverse, after.reverse)
  | none => ([], cs)

/-- The label that ASCII characters write. -/
def decode? (cs : List Char) : Option (List Char) :=
  let (plain, distances) := cutAtLastHyphen cs
  insertAll 72 128 0 plain distances

end Enrolment.Domain.Punycode
