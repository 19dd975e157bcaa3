import Enrolment.Text.Utf8

/-!
# Base64

The standard alphabet with padding (RFC 4648, section 4), read strictly: every
group has four places, padding is required, and the bits that a shorter last
group leaves over are zero.  A text that is not of this form is refused with the
fault and the place of it, counted in bytes.

## Main definitions

* `Base64Error` — the faults, and `message` for their wording.
* `Base64.encode`, `Base64.decode` — bytes to text and back.
-/

namespace Enrolment.Text

/-- What is wrong with a text that should be Base64. -/
inductive Base64Error
  /-- The byte at the offset is no symbol, or padding where none may be. -/
  | invalidSymbol (byte : UInt8) (offset : Nat)
  /-- The text breaks off after fewer than two symbols of a group. -/
  | invalidLength (length : Nat)
  /-- The last symbol carries bits that belong to no byte. -/
  | invalidLastSymbol (byte : UInt8) (offset : Nat)
  /-- The last group is not filled up with padding. -/
  | invalidPadding
  deriving DecidableEq, Repr

/-- The wording of the error. -/
def Base64Error.message : Base64Error → String
  | .invalidSymbol byte offset =>
    "Invalid symbol " ++ Nat.repr byte.toNat ++ ", offset " ++ Nat.repr offset ++ "."
  | .invalidLength length => "Invalid input length: " ++ Nat.repr length
  | .invalidLastSymbol byte offset =>
    "Invalid last symbol " ++ Nat.repr byte.toNat ++ ", offset " ++ Nat.repr offset ++ "."
  | .invalidPadding => "Invalid padding"

namespace Base64

/-- The symbol of a value below 64. -/
def symbol (n : Nat) : UInt8 :=
  if n < 26 then UInt8.ofNat (65 + n)
  else if n < 52 then UInt8.ofNat (71 + n)
  else if n < 62 then UInt8.ofNat (n - 4)
  else if n = 62 then 43
  else 47

/-- The value of a symbol. -/
def value? (b : UInt8) : Option Nat :=
  if 65 ≤ b ∧ b ≤ 90 then some (b.toNat - 65)
  else if 97 ≤ b ∧ b ≤ 122 then some (b.toNat - 71)
  else if 48 ≤ b ∧ b ≤ 57 then some (b.toNat + 4)
  else if b = 43 then some 62
  else if b = 47 then some 63
  else none

/-- The padding byte. -/
def pad : UInt8 := 61

/-- The four symbols of three bytes. -/
def quad (a b c : UInt8) : Bytes :=
  [symbol (a.toNat / 4), symbol (a.toNat % 4 * 16 + b.toNat / 16),
   symbol (b.toNat % 16 * 4 + c.toNat / 64), symbol (c.toNat % 64)]

/-- The last group: nothing, or one or two bytes filled up with padding. -/
def lastQuad : Bytes → Bytes
  | [] => []
  | [a] => [symbol (a.toNat / 4), symbol (a.toNat % 4 * 16), pad, pad]
  | a :: b :: _ =>
    [symbol (a.toNat / 4), symbol (a.toNat % 4 * 16 + b.toNat / 16),
     symbol (b.toNat % 16 * 4), pad]

/-- Write onto the symbols written so far, the last of them first. -/
def encodeOnto (written : Bytes) : Bytes → Bytes
  | a :: b :: c :: rest => encodeOnto ((quad a b c).reverse ++ written) rest
  | rest => written.reverse ++ lastQuad rest

/-- The bytes as symbols. -/
def encodeBytes (bs : Bytes) : Bytes := encodeOnto [] bs

/-- The bytes as text. -/
def encode (bs : Bytes) : String :=
  String.ofList ((encodeBytes bs).map fun b => Char.ofNat b.toNat)

/-- The three bytes of four values. -/
def triple (p q r s : Nat) : Bytes :=
  [UInt8.ofNat (p * 4 + q / 16), UInt8.ofNat (q % 16 * 16 + r / 4), UInt8.ofNat (r % 4 * 64 + s)]

/-- The values of the symbols at the front of the last group, and what is left
of it: nothing, or padding. -/
def lastValues (offset : Nat) : Bytes → Except Base64Error (List Nat × Bytes)
  | [] => .ok ([], [])
  | b :: rest =>
    match value? b with
    | some n => (lastValues (offset + 1) rest).map fun (ns, left) => (n :: ns, left)
    | none => if b = pad then .ok ([], b :: rest) else .error (.invalidSymbol b offset)

/-- The bytes of the last group, which has at most four places and starts at
the offset. -/
def decodeLast (offset : Nat) (bs : Bytes) : Except Base64Error Bytes := do
  let (values, padding) ← lastValues offset bs
  let symbols := values.length
  if padding ≠ [] ∧ (symbols < 2 ∨ ¬padding.all (· == pad)) then
    throw (.invalidSymbol pad (offset + symbols))
  if symbols < 2 then throw (.invalidLength (offset + symbols))
  if symbols + padding.length ≠ 4 then throw .invalidPadding
  let last := fun (i : Nat) => (bs.getD i 0, offset + i)
  match values with
  | [p, q] =>
    if q % 16 = 0 then return [UInt8.ofNat (p * 4 + q / 16)]
    else throw (.invalidLastSymbol (last 1).1 (last 1).2)
  | [p, q, r] =>
    if r % 4 = 0 then return [UInt8.ofNat (p * 4 + q / 16), UInt8.ofNat (q % 16 * 16 + r / 4)]
    else throw (.invalidLastSymbol (last 2).1 (last 2).2)
  | [p, q, r, s] => return triple p q r s
  | _ => throw .invalidPadding

/-- Read the groups from the offset on, onto the bytes read so far, the last of
them first.  A group is the last one when nothing follows it. -/
def decodeFrom (offset : Nat) (read : Bytes) : Bytes → Except Base64Error Bytes
  | a :: b :: c :: d :: e :: rest =>
    match value? a, value? b, value? c, value? d with
    | none, _, _, _ => .error (.invalidSymbol a offset)
    | _, none, _, _ => .error (.invalidSymbol b (offset + 1))
    | _, _, none, _ => .error (.invalidSymbol c (offset + 2))
    | _, _, _, none => .error (.invalidSymbol d (offset + 3))
    | some p, some q, some r, some s =>
      decodeFrom (offset + 4) ((triple p q r s).reverse ++ read) (e :: rest)
  | [] => .ok read.reverse
  | bs => (decodeLast offset bs).map (read.reverse ++ ·)

/-- The bytes that the symbols write.  A single byte that begins a group and is
neither a symbol nor padding is refused before anything else is looked at. -/
def decodeBytes (bs : Bytes) : Except Base64Error Bytes :=
  match bs.getLast? with
  | none => .ok []
  | some b =>
    if bs.length % 4 = 1 ∧ b ≠ pad ∧ value? b = none then
      .error (.invalidSymbol b (bs.length - 1))
    else decodeFrom 0 [] bs

/-- The bytes that the text writes. -/
def decode (s : String) : Except Base64Error Bytes := decodeBytes (bytesOf s)

end Base64

end Enrolment.Text
