import Enrolment.Crypto.Sha2

/-!
# Keyed digests and derived keys

HMAC (RFC 2104) over SHA-256, and the key that HKDF (RFC 5869) derives from a
shared secret without salt: one block of 32 bytes.

## Main definitions

* `hmac` — the keyed digest of a message.
* `deriveKey` — the key derived from a secret for a purpose.
-/

namespace Enrolment.Crypto

/-- The number of bytes of a block of SHA-256. -/
def blockLength : Nat := 64

/-- A key filled up to a whole block; a longer one is digested first. -/
def blockKey (key : Bytes) : Bytes :=
  let short := if blockLength < key.length then sha256 key else key
  short ++ List.replicate (blockLength - short.length) 0

/-- The keyed digest of a message. -/
def hmac (key message : Bytes) : Bytes :=
  let key := blockKey key
  sha256 (key.map (· ^^^ 0x5c) ++ sha256 (key.map (· ^^^ 0x36) ++ message))

/-- The key of 32 bytes derived from a secret for a purpose. -/
def deriveKey (secret purpose : Bytes) : Bytes :=
  hmac (hmac (List.replicate 32 0) secret) (purpose ++ [1])

end Enrolment.Crypto
