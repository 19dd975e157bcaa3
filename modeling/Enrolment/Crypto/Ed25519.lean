import Enrolment.Crypto.Sha2
import Enrolment.Crypto.X25519

/-!
# Signatures

Ed25519 (RFC 8032).  A signature is a point and a scalar; it is checked without
the cofactor, by comparing the encoding of the point that the scalar and the key
demand with the bytes of the signature.

## Main definitions

* `Ed25519.Point`, `Ed25519.Point.encode`, `Ed25519.Point.decode?` — points of
  the curve and their bytes.
* `Ed25519.publicKey`, `Ed25519.sign` — the public key of a secret, and its
  signatures.
* `Ed25519.verify` — the check of a signature.
-/

namespace Enrolment.Crypto.Ed25519

/-- The order of the base point. -/
def order : Nat := Nat.pow 2 252 + 27742317777372353535851937790883648493

/-- The constant of the curve, `-121665 / 121666`. -/
def constant : Nat :=
  37095705934669439343138083508754565189542113879843219016388785533085940283555

/-- A square root of minus one. -/
def rootOfMinusOne : Nat :=
  19681161376707505956807079304988542015446066515923890162744021073123829784752

/-- A point of the curve by its extended coordinates: `x` and `y` are fractions
over `z`, and `t` is their product over `z`. -/
structure Point where
  /-- The numerator of the first coordinate. -/
  x : Nat
  /-- The numerator of the second coordinate. -/
  y : Nat
  /-- The denominator. -/
  z : Nat
  /-- The numerator of the product. -/
  t : Nat

namespace Point

/-- The neutral point. -/
def zero : Point := ⟨0, 1, 1, 0⟩

/-- The point of two coordinates. -/
def ofCoordinates (x y : Nat) : Point := ⟨x, y, 1, Field.mul x y⟩

/-- The base point. -/
def base : Point := ofCoordinates
  15112221349535400772501151409588531511454012693041857206046113283949847762202
  46316835694926478169428394003475163141307993866256225615783033603165251855960

/-- The sum of two points; the formulas hold for all pairs. -/
def add (p q : Point) : Point :=
  let a := Field.mul (Field.sub p.y p.x) (Field.sub q.y q.x)
  let b := Field.mul (Field.add p.y p.x) (Field.add q.y q.x)
  let c := Field.mul (Field.mul p.t (Field.add constant constant)) q.t
  let d := Field.mul (Field.add p.z p.z) q.z
  let e := Field.sub b a
  let f := Field.sub d c
  let g := Field.add d c
  let h := Field.add b a
  ⟨Field.mul e f, Field.mul g h, Field.mul f g, Field.mul e h⟩

/-- The opposite point. -/
def neg (p : Point) : Point := ⟨Field.neg p.x, p.y, p.z, Field.neg p.t⟩

/-- The multiple of a point. -/
def multiple (n : Nat) (p : Point) : Point :=
  (bitsOf 256 n).foldl (fun r bit => if bit then (r.add r).add p else r.add r) zero

/-- The bytes of a point: its second coordinate, with the lowest bit of the
first one on top. -/
def encode (p : Point) : Bytes :=
  let inverse := Field.inverse p.z
  let x := Field.mul p.x inverse
  let y := Field.mul p.y inverse
  littleEndian 32 (y + Nat.pow 2 255 * (x % 2))

/-- A square root of the fraction `u / v`, if it has one. -/
def root? (u v : Nat) : Option Nat :=
  let v3 := Field.mul (Field.square v) v
  let v7 := Field.mul (Field.square v3) v
  let r := Field.mul (Field.mul u v3) (Field.power (Field.mul u v7) ((Field.modulus - 5) / 8))
  let check := Field.mul v (Field.square r)
  if check = u then some r
  else if check = Field.neg u then some (Field.mul r rootOfMinusOne)
  else none

/-- The point of 32 bytes, whose second coordinate need not be below the
modulus. -/
def decode? (bs : Bytes) : Option Point :=
  let n := ofLittleEndian bs
  let y := n % Nat.pow 2 255 % Field.modulus
  let sign := n / Nat.pow 2 255 % 2
  let y2 := Field.square y
  (root? (Field.sub y2 1) (Field.add (Field.mul constant y2) 1)).map fun r =>
    ofCoordinates (if r % 2 = sign then r else Field.neg r) y

end Point

/-- The scalar of a digest of 64 bytes. -/
def scalarOf (digest : Bytes) : Nat := ofLittleEndian digest % order

/-- The public key of a secret. -/
def publicKey (secret : Bytes) : Bytes :=
  (Point.base.multiple (clampedScalar ((sha512 secret).take 32))).encode

/-- The signature of a message. -/
def sign (secret message : Bytes) : Bytes :=
  let expanded := sha512 secret
  let scalar := clampedScalar (expanded.take 32)
  let key := (Point.base.multiple scalar).encode
  let nonce := scalarOf (sha512 (expanded.drop 32 ++ message))
  let commitment := (Point.base.multiple nonce).encode
  let challenge := scalarOf (sha512 (commitment ++ key ++ message))
  commitment ++ littleEndian 32 ((nonce + challenge * scalar) % order)

/-- The signature is one of the message by the holder of the key, whose point is
given beside its bytes. -/
def verifyWith (key : Bytes) (point : Point) (message signature : Bytes) : Bool :=
  if signature.length ≠ 64 then false
  else
    let commitment := signature.take 32
    let scalar := ofLittleEndian (signature.drop 32)
    let challenge := scalarOf (sha512 (commitment ++ key ++ message))
    scalar < order &&
      ((Point.base.multiple scalar).add (point.neg.multiple challenge)).encode = commitment

/-- The signature is one of the message by the holder of the key; none if the
key is no point of the curve. -/
def verify (key message signature : Bytes) : Option Bool :=
  (Point.decode? key).map fun point => verifyWith key point message signature

end Enrolment.Crypto.Ed25519
