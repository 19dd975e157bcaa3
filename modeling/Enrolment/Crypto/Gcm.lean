import Enrolment.Crypto.Aes
import Enrolment.Crypto.Endian

/-!
# Sealed texts

Galois counter mode (NIST SP 800-38D) with nonces of twelve bytes and no
additional data.  The text is added to a stream that the block cipher makes of
the nonce and a counter; the tag is a polynomial in the blocks of the sealed
text, hidden by a further block of the stream.

The mode is stated for any block cipher.  What is sealed opens again
(`openSealed_sealed`).

## Main definitions

* `Gcm.stream` — the bytes that are added to a text.
* `Gcm.tag` — what protects a sealed text from changes.
* `Gcm.sealed`, `Gcm.openSealed` — seal a text, and open it again.
-/

namespace Enrolment.Crypto.Gcm

/-- A block cipher with its key. -/
abbrev Cipher := Bytes → Bytes

/-- The number of bytes of a nonce. -/
def nonceLength : Nat := 12

/-- The number of bytes of a tag. -/
def tagLength : Nat := 16

/-- The block of a nonce and a counter. -/
def counterBlock (nonce : Bytes) (counter : Nat) : Bytes := nonce ++ bigEndian 4 counter

/-- A block encrypted, which has sixteen bytes whatever the cipher is. -/
def cipherBlock (cipher : Cipher) (block : Bytes) : Bytes :=
  (cipher block ++ List.replicate 16 0).take 16

@[simp] theorem length_cipherBlock (cipher : Cipher) (block : Bytes) :
    (cipherBlock cipher block).length = 16 := by
  simp [cipherBlock]

/-- The stream of a nonce, in blocks from the given counter on. -/
def stream (cipher : Cipher) (nonce : Bytes) (counter count : Nat) : Bytes :=
  (List.range count).flatMap fun i => cipherBlock cipher (counterBlock nonce (counter + i))

theorem length_stream (cipher : Cipher) (nonce : Bytes) (counter count : Nat) :
    (stream cipher nonce counter count).length = 16 * count := by
  simp [stream, List.length_flatMap, List.map_const', Nat.mul_comm]

/-- A text added to the stream. -/
def addStream (cipher : Cipher) (nonce text : Bytes) : Bytes :=
  Aes.add text (stream cipher nonce 2 ((text.length + 15) / 16))

@[simp] theorem length_addStream (cipher : Cipher) (nonce text : Bytes) :
    (addStream cipher nonce text).length = text.length := by
  simp only [addStream, Aes.add, List.length_zipWith, length_stream]
  omega

/-- Adding the stream twice gives the text back. -/
@[simp] theorem addStream_addStream (cipher : Cipher) (nonce text : Bytes) :
    addStream cipher nonce (addStream cipher nonce text) = text := by
  have h := length_addStream cipher nonce text
  rw [addStream, h]
  exact Aes.add_add_right (by rw [length_stream]; omega)

/-- The product of two elements of the field of 128 bits, the bit of highest
value being the coefficient of lowest degree. -/
def product (x y : Nat) : Nat :=
  ((List.range 128).foldl (fun (z, v) i =>
    (if x.testBit (127 - i) then z ^^^ v else z,
      if v % 2 = 1 then (v / 2) ^^^ (0xe1 <<< 120) else v / 2)) (0, y)).1

/-- The element of a block that may be short. -/
def element (block : Bytes) : Nat :=
  ofBigEndian (block ++ List.replicate (16 - block.length) 0)

/-- The polynomial of blocks of sixteen bytes at the point. -/
def polynomial (point : Nat) (value : Nat) : (count : Nat) → Bytes → Nat
  | 0, _ => value
  | count + 1, bs =>
    polynomial point (product (value ^^^ element (bs.take 16)) point) count (bs.drop 16)

/-- The tag of a sealed text. -/
def tag (cipher : Cipher) (nonce sealedText : Bytes) : Bytes :=
  let point := element (cipherBlock cipher (List.replicate 16 0))
  let value := polynomial point 0 ((sealedText.length + 15) / 16) sealedText
  let digest := product (value ^^^ (8 * sealedText.length)) point
  Aes.add (bigEndian 16 digest) (cipherBlock cipher (counterBlock nonce 1))

@[simp] theorem length_tag (cipher : Cipher) (nonce sealedText : Bytes) :
    (tag cipher nonce sealedText).length = tagLength := by
  simp [tag, Aes.add, tagLength]

/-- The text sealed, followed by its tag. -/
def sealed (cipher : Cipher) (nonce text : Bytes) : Bytes :=
  let body := addStream cipher nonce text
  body ++ tag cipher nonce body

/-- The text of a sealed text, if its tag is right. -/
def openSealed (cipher : Cipher) (nonce blob : Bytes) : Option Bytes :=
  if blob.length < tagLength then none
  else
    let body := blob.take (blob.length - tagLength)
    if tag cipher nonce body = blob.drop (blob.length - tagLength) then
      some (addStream cipher nonce body)
    else none

/-- What is sealed opens again. -/
theorem openSealed_sealed (cipher : Cipher) (nonce text : Bytes) :
    openSealed cipher nonce (sealed cipher nonce text) = some text := by
  simp [openSealed, sealed]

end Enrolment.Crypto.Gcm
