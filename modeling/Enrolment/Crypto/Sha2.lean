import Enrolment.Crypto.Endian

/-!
# Digests

SHA-256 and SHA-512 (FIPS 180-4) are one construction over words of two sizes.
The message is filled up to whole blocks of sixteen words; every block is spread
into a schedule of words, and the words are mixed into a state of eight.

## Main definitions

* `Sha2` — what tells the two functions apart: the words, the mixing functions
  and the constants.
* `Sha2.digest` — the digest of a message.
* `sha256`, `sha512` — the two functions.
-/

namespace Enrolment.Crypto

/-- A function of the family, given by its words. -/
class Sha2 (W : Type) extends Add W, XorOp W, AndOp W, Complement W where
  /-- The number of bytes of a word. -/
  size : Nat
  /-- The word of a number. -/
  ofNat : Nat → W
  /-- The number of a word. -/
  toNat : W → Nat
  /-- The mixing functions of the schedule. -/
  small : W → W × W
  /-- The mixing functions of a round. -/
  large : W → W × W
  /-- One constant a round. -/
  constants : Array W
  /-- The state before the first block. -/
  start : List W

namespace Sha2

variable {W : Type} [Sha2 W]

/-- The eight words that a message is mixed into. -/
structure State (W : Type) where
  /-- The first word. -/
  a : W
  /-- The second word. -/
  b : W
  /-- The third word. -/
  c : W
  /-- The fourth word. -/
  d : W
  /-- The fifth word. -/
  e : W
  /-- The sixth word. -/
  f : W
  /-- The seventh word. -/
  g : W
  /-- The eighth word. -/
  h : W

/-- Fill a message up to whole blocks: a bit, zeros, and its length in bits. -/
def pad (W : Type) [Sha2 W] (message : Bytes) : Bytes :=
  let block := 16 * size W
  let tail := 2 * size W
  let used := (message.length + 1 + tail) % block
  message ++ 0x80 :: (List.replicate ((block - used) % block) 0 ++
    bigEndian tail (8 * message.length))

/-- The first words of a string of bytes. -/
def words : (count : Nat) → Bytes → List W
  | 0, _ => []
  | count + 1, bs => ofNat (ofBigEndian (bs.take (size W))) :: words count (bs.drop (size W))

/-- The schedule of a block, one word a round. -/
def schedule (block : Bytes) : Array W :=
  (List.range ((constants : Array W).size - 16)).foldl (fun ws t =>
    let word := fun i => ws.getD (t + i) (ofNat 0)
    ws.push ((small (word 14)).2 + word 9 + (small (word 1)).1 + word 0))
    (words 16 block).toArray

/-- One round, with its constant and its word of the schedule. -/
@[specialize] def round (s : State W) (k w : W) : State W :=
  let choice := (s.e &&& s.f) ^^^ (~~~s.e &&& s.g)
  let majority := (s.a &&& s.b) ^^^ (s.a &&& s.c) ^^^ (s.b &&& s.c)
  let first := s.h + (large s.e).2 + choice + k + w
  let second := (large s.a).1 + majority
  { a := first + second, b := s.a, c := s.b, d := s.c
    e := s.d + first, f := s.e, g := s.f, h := s.g }

/-- Mix a block into the state. -/
@[specialize] def mix (s : State W) (block : Bytes) : State W :=
  let ws := schedule block
  let t := (List.range (constants : Array W).size).foldl
    (fun t i => round t ((constants : Array W).getD i (ofNat 0)) (ws.getD i (ofNat 0))) s
  { a := s.a + t.a, b := s.b + t.b, c := s.c + t.c, d := s.d + t.d
    e := s.e + t.e, f := s.f + t.f, g := s.g + t.g, h := s.h + t.h }

/-- Mix blocks in turn. -/
@[specialize] def mixAll (s : State W) : (count : Nat) → Bytes → State W
  | 0, _ => s
  | count + 1, bs => mixAll (mix s (bs.take (16 * size W))) count (bs.drop (16 * size W))

/-- The state before the first block. -/
def State.start (W : Type) [Sha2 W] : State W :=
  let word := fun i => (Sha2.start : List W).getD i (ofNat 0)
  ⟨word 0, word 1, word 2, word 3, word 4, word 5, word 6, word 7⟩

/-- The words of a state in turn. -/
def State.toList (s : State W) : List W := [s.a, s.b, s.c, s.d, s.e, s.f, s.g, s.h]

/-- The digest of a message. -/
@[specialize] def digest (W : Type) [Sha2 W] (message : Bytes) : Bytes :=
  let padded := pad W message
  (mixAll (State.start W) (padded.length / (16 * size W)) padded).toList.flatMap
    fun w => bigEndian (size W) (toNat w)

end Sha2

/-- A word of 32 bits turned to the right. -/
def rotate32 (w n : UInt32) : UInt32 := (w >>> n) ||| (w <<< (32 - n))

/-- A word of 64 bits turned to the right. -/
def rotate64 (w n : UInt64) : UInt64 := (w >>> n) ||| (w <<< (64 - n))

/-- SHA-256 works on words of 32 bits.  Its constants are the fractions of the
cube roots of the first 64 primes and of the square roots of the first eight. -/
instance : Sha2 UInt32 where
  size := 4
  ofNat := UInt32.ofNat
  toNat := UInt32.toNat
  small w := (rotate32 w 7 ^^^ rotate32 w 18 ^^^ (w >>> 3),
    rotate32 w 17 ^^^ rotate32 w 19 ^^^ (w >>> 10))
  large w := (rotate32 w 2 ^^^ rotate32 w 13 ^^^ rotate32 w 22,
    rotate32 w 6 ^^^ rotate32 w 11 ^^^ rotate32 w 25)
  constants := #[
    0x428a2f98, 0x71374491, 0xb5c0fbcf, 0xe9b5dba5, 0x3956c25b, 0x59f111f1,
    0x923f82a4, 0xab1c5ed5, 0xd807aa98, 0x12835b01, 0x243185be, 0x550c7dc3,
    0x72be5d74, 0x80deb1fe, 0x9bdc06a7, 0xc19bf174, 0xe49b69c1, 0xefbe4786,
    0x0fc19dc6, 0x240ca1cc, 0x2de92c6f, 0x4a7484aa, 0x5cb0a9dc, 0x76f988da,
    0x983e5152, 0xa831c66d, 0xb00327c8, 0xbf597fc7, 0xc6e00bf3, 0xd5a79147,
    0x06ca6351, 0x14292967, 0x27b70a85, 0x2e1b2138, 0x4d2c6dfc, 0x53380d13,
    0x650a7354, 0x766a0abb, 0x81c2c92e, 0x92722c85, 0xa2bfe8a1, 0xa81a664b,
    0xc24b8b70, 0xc76c51a3, 0xd192e819, 0xd6990624, 0xf40e3585, 0x106aa070,
    0x19a4c116, 0x1e376c08, 0x2748774c, 0x34b0bcb5, 0x391c0cb3, 0x4ed8aa4a,
    0x5b9cca4f, 0x682e6ff3, 0x748f82ee, 0x78a5636f, 0x84c87814, 0x8cc70208,
    0x90befffa, 0xa4506ceb, 0xbef9a3f7, 0xc67178f2]
  start := [
    0x6a09e667, 0xbb67ae85, 0x3c6ef372, 0xa54ff53a, 0x510e527f, 0x9b05688c,
    0x1f83d9ab, 0x5be0cd19]

/-- SHA-512 works on words of 64 bits.  Its constants are the fractions of the
cube roots of the first 80 primes and of the square roots of the first eight. -/
instance : Sha2 UInt64 where
  size := 8
  ofNat := UInt64.ofNat
  toNat := UInt64.toNat
  small w := (rotate64 w 1 ^^^ rotate64 w 8 ^^^ (w >>> 7),
    rotate64 w 19 ^^^ rotate64 w 61 ^^^ (w >>> 6))
  large w := (rotate64 w 28 ^^^ rotate64 w 34 ^^^ rotate64 w 39,
    rotate64 w 14 ^^^ rotate64 w 18 ^^^ rotate64 w 41)
  constants := #[
    0x428a2f98d728ae22, 0x7137449123ef65cd, 0xb5c0fbcfec4d3b2f, 0xe9b5dba58189dbbc,
    0x3956c25bf348b538, 0x59f111f1b605d019, 0x923f82a4af194f9b, 0xab1c5ed5da6d8118,
    0xd807aa98a3030242, 0x12835b0145706fbe, 0x243185be4ee4b28c, 0x550c7dc3d5ffb4e2,
    0x72be5d74f27b896f, 0x80deb1fe3b1696b1, 0x9bdc06a725c71235, 0xc19bf174cf692694,
    0xe49b69c19ef14ad2, 0xefbe4786384f25e3, 0x0fc19dc68b8cd5b5, 0x240ca1cc77ac9c65,
    0x2de92c6f592b0275, 0x4a7484aa6ea6e483, 0x5cb0a9dcbd41fbd4, 0x76f988da831153b5,
    0x983e5152ee66dfab, 0xa831c66d2db43210, 0xb00327c898fb213f, 0xbf597fc7beef0ee4,
    0xc6e00bf33da88fc2, 0xd5a79147930aa725, 0x06ca6351e003826f, 0x142929670a0e6e70,
    0x27b70a8546d22ffc, 0x2e1b21385c26c926, 0x4d2c6dfc5ac42aed, 0x53380d139d95b3df,
    0x650a73548baf63de, 0x766a0abb3c77b2a8, 0x81c2c92e47edaee6, 0x92722c851482353b,
    0xa2bfe8a14cf10364, 0xa81a664bbc423001, 0xc24b8b70d0f89791, 0xc76c51a30654be30,
    0xd192e819d6ef5218, 0xd69906245565a910, 0xf40e35855771202a, 0x106aa07032bbd1b8,
    0x19a4c116b8d2d0c8, 0x1e376c085141ab53, 0x2748774cdf8eeb99, 0x34b0bcb5e19b48a8,
    0x391c0cb3c5c95a63, 0x4ed8aa4ae3418acb, 0x5b9cca4f7763e373, 0x682e6ff3d6b2b8a3,
    0x748f82ee5defb2fc, 0x78a5636f43172f60, 0x84c87814a1f0ab72, 0x8cc702081a6439ec,
    0x90befffa23631e28, 0xa4506cebde82bde9, 0xbef9a3f7b2c67915, 0xc67178f2e372532b,
    0xca273eceea26619c, 0xd186b8c721c0c207, 0xeada7dd6cde0eb1e, 0xf57d4f7fee6ed178,
    0x06f067aa72176fba, 0x0a637dc5a2c898a6, 0x113f9804bef90dae, 0x1b710b35131c471b,
    0x28db77f523047d84, 0x32caab7b40c72493, 0x3c9ebe0a15c9bebc, 0x431d67c49c100d4c,
    0x4cc5d4becb3e42b6, 0x597f299cfc657e2a, 0x5fcb6fab3ad6faec, 0x6c44198c4a475817]
  start := [
    0x6a09e667f3bcc908, 0xbb67ae8584caa73b, 0x3c6ef372fe94f82b, 0xa54ff53a5f1d36f1,
    0x510e527fade682d1, 0x9b05688c2b3e6c1f, 0x1f83d9abfb41bd6b, 0x5be0cd19137e2179]

/-- The SHA-256 digest of a message. -/
def sha256 (message : Bytes) : Bytes := Sha2.digest UInt32 message

/-- The SHA-512 digest of a message. -/
def sha512 (message : Bytes) : Bytes := Sha2.digest UInt64 message

end Enrolment.Crypto
