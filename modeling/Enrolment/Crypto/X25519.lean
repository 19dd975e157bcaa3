import Enrolment.Crypto.Endian
import Enrolment.Crypto.Field

/-!
# Shared secrets

X25519 (RFC 7748): a secret of 32 bytes and the public key of a peer make a
secret that both share.  Public keys are first coordinates on a curve in
Montgomery form; the coordinate of a multiple is found by a ladder that keeps
two neighbouring multiples.  Every string of 32 bytes is taken as a public key.

## Main definitions

* `X25519.shared` — the shared secret.
* `X25519.publicKey` — the public key of a secret.
-/

namespace Enrolment.Crypto

/-- The scalar of 32 secret bytes: a multiple of eight with the highest bit at
place 254. -/
def clampedScalar (secret : Bytes) : Nat :=
  let n := ofLittleEndian secret
  Nat.pow 2 254 + n % Nat.pow 2 254 / 8 * 8

namespace X25519

/-- A first coordinate as a fraction. -/
structure Fraction where
  /-- The numerator. -/
  x : Nat
  /-- The denominator. -/
  z : Nat

/-- The point doubled. -/
def double (p : Fraction) : Fraction :=
  let a := Field.square (Field.add p.x p.z)
  let b := Field.square (Field.sub p.x p.z)
  let e := Field.sub a b
  ⟨Field.mul a b, Field.mul e (Field.add a (Field.mul 121665 e))⟩

/-- The sum of two points whose difference has the first coordinate `u`. -/
def add (u : Nat) (p q : Fraction) : Fraction :=
  let da := Field.mul (Field.sub q.x q.z) (Field.add p.x p.z)
  let cb := Field.mul (Field.add q.x q.z) (Field.sub p.x p.z)
  ⟨Field.square (Field.add da cb), Field.mul u (Field.square (Field.sub da cb))⟩

/-- A rung of the ladder: from the multiples `n` and `n + 1` to `2 n + b` and
`2 n + b + 1`. -/
def rung (u : Nat) (r : Fraction × Fraction) (bit : Bool) : Fraction × Fraction :=
  if bit then (add u r.1 r.2, double r.2) else (double r.1, add u r.1 r.2)

/-- The first coordinate of the multiple of a point. -/
def multiple (n u : Nat) : Nat :=
  let r := ((bitsOf 255 n).foldl (rung u) (⟨1, 0⟩, ⟨u, 1⟩)).1
  Field.mul r.x (Field.inverse r.z)

/-- The secret shared with the holder of a public key. -/
def shared (secret peer : Bytes) : Bytes :=
  let u := ofLittleEndian peer % Nat.pow 2 255 % Field.modulus
  littleEndian 32 (multiple (clampedScalar secret) u)

/-- The public key of a secret. -/
def publicKey (secret : Bytes) : Bytes := shared secret (littleEndian 32 9)

end X25519

end Enrolment.Crypto
