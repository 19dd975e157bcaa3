import Enrolment.Text.Utf8

/-!
# The AES block cipher

AES with keys of 256 bits (FIPS 197).  A block of sixteen bytes is a square of
four columns; a round replaces its bytes, turns its rows, mixes its columns and
adds a round key.

The table of replacements is computed from its definition, the inverse in the
field of 256 elements followed by an affine map.

## Main definitions

* `Aes.replace` — the replacement of a byte.
* `Aes.roundKeys` — the round keys of a key.
* `Aes.encrypt` — the cipher.
-/

namespace Enrolment.Crypto.Aes

/-- Twice an element of the field. -/
def double (b : UInt8) : UInt8 := (b <<< 1) ^^^ (if 128 ≤ b then 0x1b else 0)

/-- The product of two elements of the field, by the bits of the second. -/
def times (a : UInt8) : (bits : Nat) → UInt8 → UInt8
  | 0, _ => 0
  | bits + 1, b => (if b % 2 = 1 then a else 0) ^^^ times (double a) bits (b / 2)

/-- The product of two elements of the field. -/
def product (a b : UInt8) : UInt8 := times a 8 b

/-- The inverse of an element, as its power to 254; zero for zero. -/
def inverse (b : UInt8) : UInt8 :=
  let square := fun x => product x x
  let b2 := square b
  let b3 := product b2 b
  let b12 := square (square b3)
  let b15 := product b12 b3
  let b240 := square (square (square (square b15)))
  product (product b240 b12) b2

/-- A byte turned to the left. -/
def turn (b n : UInt8) : UInt8 := (b <<< n) ||| (b >>> (8 - n))

/-- The table of replacements. -/
def table : Array UInt8 :=
  Array.ofFn fun (i : Fin 256) =>
    let b := inverse (UInt8.ofNat i.val)
    b ^^^ turn b 1 ^^^ turn b 2 ^^^ turn b 3 ^^^ turn b 4 ^^^ 0x63

/-- The replacement of a byte. -/
def replace (b : UInt8) : UInt8 := table.getD b.toNat 0

/-- The sum of two strings of bytes, bit by bit. -/
def add (a b : Bytes) : Bytes := List.zipWith (· ^^^ ·) a b

/-- Adding the same bytes twice changes nothing. -/
theorem add_add_right {a b : Bytes} (h : a.length ≤ b.length) : add (add a b) b = a := by
  induction a generalizing b with
  | nil => rfl
  | cons x a ih =>
    cases b with
    | nil => simp at h
    | cons y b =>
      have hx : x ^^^ y ^^^ y = x := by rw [UInt8.xor_assoc, UInt8.xor_self, UInt8.xor_zero]
      have htail : add (add a b) b = a := ih (Nat.le_of_succ_le_succ h)
      simpa only [add, List.zipWith_cons_cons, hx, List.cons.injEq, true_and] using htail

/-- Turn the rows: the row `i` by `i` places. -/
def turnRows (s : Bytes) : Bytes :=
  [0, 5, 10, 15, 4, 9, 14, 3, 8, 13, 2, 7, 12, 1, 6, 11].map fun i => s.getD i 0

/-- Mix the columns one by one. -/
def mixColumns : Bytes → Bytes
  | a :: b :: c :: d :: rest =>
    let all := a ^^^ b ^^^ c ^^^ d
    (a ^^^ all ^^^ double (a ^^^ b)) :: (b ^^^ all ^^^ double (b ^^^ c)) ::
      (c ^^^ all ^^^ double (c ^^^ d)) :: (d ^^^ all ^^^ double (d ^^^ a)) :: mixColumns rest
  | _ => []

/-- Half of the key schedule: four columns, each the sum of the column before it
and of the column eight places back. -/
def extend (last : Bytes) : (columns : List Bytes) → List Bytes
  | [] => []
  | c :: cs => let next := add c last; next :: extend next cs

/-- The column before, replaced and turned, with the constant of the step. -/
def seed (constant : UInt8) (column : Bytes) : Bytes :=
  match column with
  | [a, b, c, d] => [replace b ^^^ constant, replace c, replace d, replace a]
  | _ => column

/-- The next two round keys, made of the two before them. -/
def nextKeys (constant : UInt8) (first second : List Bytes) : List Bytes × List Bytes :=
  let third := extend (seed constant (second.getLastD [])) first
  (third, extend ((third.getLastD []).map replace) second)

/-- The columns of a string of bytes. -/
def columns : Bytes → List Bytes
  | a :: b :: c :: d :: rest => [a, b, c, d] :: columns rest
  | _ => []

/-- Further round keys, two for each constant. -/
def keysFrom (first second : List Bytes) : List UInt8 → List Bytes
  | [] => []
  | constant :: rest =>
    let (third, fourth) := nextKeys constant first second
    third.flatten :: fourth.flatten :: keysFrom third fourth rest

/-- The fifteen round keys of a key. -/
def roundKeys (key : Bytes) : List Bytes :=
  let first := columns (key.take 16)
  let second := columns (key.drop 16)
  first.flatten :: second.flatten ::
    (keysFrom first second [1, 2, 4, 8, 16, 32, 64]).take 13

/-- The rounds after the first round key; the last one mixes no columns. -/
def rounds (s : Bytes) : (keys : List Bytes) → Bytes
  | [] => s
  | [key] => add (turnRows (s.map replace)) key
  | key :: keys => rounds (add (mixColumns (turnRows (s.map replace))) key) keys

/-- Encrypt a block with round keys. -/
def encryptWith (keys : List Bytes) (block : Bytes) : Bytes :=
  match keys with
  | [] => block
  | key :: keys => rounds (add block key) keys

/-- Encrypt a block with a key. -/
def encrypt (key : Bytes) : Bytes → Bytes :=
  let keys := roundKeys key
  encryptWith keys

end Enrolment.Crypto.Aes
