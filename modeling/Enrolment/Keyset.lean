import Enrolment.Crypto.Ed25519
import Enrolment.Crypto.Gcm
import Enrolment.Crypto.Hmac
import Enrolment.Error

/-!
# Keys

A subscriber holds a keyset for every key of its identities: a secret for
signatures and one for encryption.  Their public halves are advertised to the
registry in Base64.

A text is sealed for the holder of a public key under a key that both sides
derive from their shared secret.  The nonce stands before the sealed text, and
whoever seals draws it afresh.

## Main definitions

* `PublicKeys`, `Keyset` — public and secret keys.
* `decodeKey` — the bytes of an advertised key.
* `Keyset.sign`, `verifySignature` — signatures, made and checked.
* `Keyset.sealFor`, `Keyset.openFrom` — texts sealed for a peer, and opened.
-/

namespace Enrolment

/-- The public halves of a keyset, as they are advertised. -/
structure PublicKeys where
  /-- The key that checks signatures. -/
  signing : String
  /-- The key that texts are sealed for. -/
  encryption : String
  deriving DecidableEq, Repr

namespace PublicKeys

/-- The value that stands for public keys in a document. -/
def toJson (k : PublicKeys) : Json.Value :=
  .object [("signing_public_key", .text k.signing), ("encr_public_key", .text k.encryption)]

/-- Public keys in a document. -/
def reader : Json.Reader PublicKeys := fun depth t => do
  match ← Json.struct "PublicKeys"
    [.must "signing_public_key" Json.text, .must "encr_public_key" Json.text] depth t with
  | [signing, encryption] =>
    return ⟨← Json.text.must (depth + 1) signing, ← Json.text.must (depth + 1) encryption⟩
  | _ => throw .malformed

/-- Public keys in a message. -/
def shown (k : PublicKeys) : String :=
  "PublicKeys \x7b signing_public_key: " ++ Text.shown k.signing ++
    ", encr_public_key: " ++ Text.shown k.encryption ++ " \x7d"

end PublicKeys

/-- The number of bytes of a key. -/
def keyLength : Nat := 32

/-- The bytes of an advertised key, which may be padded with blanks. -/
def decodeKey (s : String) : Except KeyError Bytes :=
  match Text.Base64.decode (Text.trimmed s) with
  | .error e => .error (.encoding e)
  | .ok bs => if bs.length = keyLength then .ok bs else .error (.length bs.length)

/-- The signature is one of the message by the holder of the public key. -/
def verifySignature (message signature : Bytes) (publicKey : String) : Except KeyError Bool := do
  match Crypto.Ed25519.verify (← decodeKey publicKey) message signature with
  | some valid => return valid
  | none => throw .notOnCurve

/-- The secrets held for one key. -/
structure Keyset where
  /-- The secret for signatures. -/
  signing : Bytes
  /-- The secret for encryption. -/
  encryption : Bytes
  deriving DecidableEq, Repr

/-- The purpose of the keys that are derived for sealing. -/
def sealPurpose : Bytes := Text.bytesOf "beckn-onix-encryption"

namespace Keyset

/-- The public halves. -/
def publicKeys (k : Keyset) : PublicKeys where
  signing := Text.Base64.encode (Crypto.Ed25519.publicKey k.signing)
  encryption := Text.Base64.encode (Crypto.X25519.publicKey k.encryption)

/-- The keyset in a message, which shows no secret. -/
def shown (k : Keyset) : String := "Keyset \x7b public_keys: " ++ k.publicKeys.shown ++ ", .. \x7d"

/-- The signature of a message. -/
def sign (k : Keyset) (message : Bytes) : Bytes := Crypto.Ed25519.sign k.signing message

/-- The cipher shared with the holder of a public key. -/
def sharedCipher (k : Keyset) (peer : String) : Except KeyError Crypto.Gcm.Cipher := do
  let secret := Crypto.X25519.shared k.encryption (← decodeKey peer)
  return Crypto.Aes.encrypt (Crypto.deriveKey secret sealPurpose)

/-- The text sealed for the holder of a public key, with the given nonce. -/
def sealFor (k : Keyset) (nonce : Bytes) (text peer : String) : Except KeyError String := do
  let cipher ← k.sharedCipher peer
  return Text.Base64.encode (nonce ++ Crypto.Gcm.sealed cipher nonce (Text.bytesOf text))

/-- The text that the holder of a public key sealed, which may be padded with
blanks. -/
def openFrom (k : Keyset) (blob peer : String) : Except ServiceError String := do
  match Text.Base64.decode (Text.trimmed blob) with
  | .error e => throw (.decryption (.encoding e))
  | .ok bs =>
    if bs.length ≤ Crypto.Gcm.nonceLength then throw (.decryption .tooShort)
    let cipher ← (k.sharedCipher peer).mapError .crypto
    let (nonce, body) := bs.splitAt Crypto.Gcm.nonceLength
    match Crypto.Gcm.openSealed cipher nonce body with
    | none => throw (.decryption .unauthentic)
    | some plain =>
      match Text.text? plain with
      | none => throw (.decryption .notText)
      | some text => return text

end Keyset

end Enrolment
