import Enrolment.Keyset

/-!
# Signed requests

A request to the registry may carry a signature over the digest of its body and
over the period in which it holds.  The header names the signer, both ends of
the period in seconds since the start of 1970, and the signature.

The reader takes the parameters in any order, the last one of a name counting,
and leaves out what is no parameter.

## Main definitions

* `bodyDigest`, `signingString` — the digest of a body, and what is signed.
* `Authorization`, `Authorization.text` — a signature with its signer and
  period, and its header.
* `Authorization.read` — the signature that a header carries.
* `Authorization.verify` — the signature holds for a body at a moment.
-/

namespace Enrolment

/-- The digest of a body. -/
def bodyDigest (body : Bytes) : String := "SHA-256=" ++ Text.Base64.encode (Crypto.sha256 body)

/-- What is signed: the period and the digest of the body. -/
def signingString (created expires : Int) (body : Bytes) : String :=
  "(created): " ++ Text.integerText created ++ "\n(expires): " ++ Text.integerText expires ++
    "\ndigest: " ++ bodyDigest body

/-- The seconds that a signature holds. -/
def signatureLifetime : Int := 300

/-- A signature with its signer and its period. -/
structure Authorization where
  /-- The signer. -/
  identity : Identity
  /-- The first second in which the signature holds. -/
  created : Int
  /-- The last second in which it holds. -/
  expires : Int
  /-- The signature. -/
  signature : Bytes
  deriving DecidableEq, Repr

namespace Authorization

/-- The name of the kind of signature. -/
def algorithm : String := "ed25519"

/-- The names of what is signed. -/
def signedHeaders : String := "(created) (expires) digest"

/-- What the signer signs for a body, at a moment. -/
def message (created : Int) (body : Bytes) : Bytes :=
  Text.bytesOf (signingString created (created + signatureLifetime) body)

/-- The signature of the signer, made at a moment. -/
def make (identity : Identity) (created : Int) (signature : Bytes) : Authorization :=
  ⟨identity, created, created + signatureLifetime, signature⟩

/-- A parameter of the header. -/
def parameter (name value : String) : String := name ++ "=\"" ++ value ++ "\""

/-- The header. -/
def text (a : Authorization) : String :=
  "Signature " ++ ",".intercalate [
    parameter "keyId" (a.identity.subscriberId ++ "|" ++ a.identity.keyId ++ "|" ++ algorithm),
    parameter "algorithm" algorithm,
    parameter "created" (Text.integerText a.created),
    parameter "expires" (Text.integerText a.expires),
    parameter "headers" signedHeaders,
    parameter "signature" (Text.Base64.encode a.signature)]

/-- A parameter with its name; the value may stand between quotes. -/
def readParameter (part : List Char) : Option (String × List Char) :=
  (Text.cutAt '=' (Text.trim part)).map fun (name, value) =>
    (String.ofList name, Text.stripBoth '"' value)

/-- The value of a parameter, the last one of the name. -/
def find (name : String) (parameters : List (String × List Char)) :
    Except HeaderError (List Char) :=
  match parameters.reverse.lookup name with
  | some value => .ok value
  | none => .error (.parameter name)

/-- The signer that the parameter names, with the kind of signature. -/
def readSigner (value : List Char) : Except HeaderError (Identity × String) :=
  match Text.fields '|' value with
  | [subscriberId, keyId, kind] =>
    .ok (⟨String.ofList subscriberId, String.ofList keyId⟩, String.ofList kind)
  | _ => .error (.parameter "keyId")

/-- Seconds since the start of 1970. -/
def readSeconds (name : String) (value : List Char) : Except HeaderError Int :=
  (Text.readInt64 value).mapError fun _ => .parameter name

/-- The signature that a header carries. -/
def readHeader (header : List Char) : Except HeaderError Authorization := do
  let some rest := Text.afterPrefix "Signature ".toList header | throw .scheme
  let parameters := (Text.fields ',' rest).filterMap readParameter
  let (identity, kind) ← readSigner (← find "keyId" parameters)
  if kind ≠ algorithm then throw (.parameter "algorithm")
  if String.ofList (← find "algorithm" parameters) ≠ algorithm then throw (.parameter "algorithm")
  let created ← readSeconds "created" (← find "created" parameters)
  let expires ← readSeconds "expires" (← find "expires" parameters)
  match Text.Base64.decode (String.ofList (← find "signature" parameters)) with
  | .ok signature => return ⟨identity, created, expires, signature⟩
  | .error _ => throw (.parameter "signature")

/-- The signature that a header carries. -/
def read (header : String) : Except InputError Authorization :=
  (readHeader header.toList).mapError .header

/-- The signature holds at a moment and is one of the body by the holder of the
public key. -/
def verify (a : Authorization) (body : Bytes) (publicKey : String) (now : Int) :
    Except KeyError Bool :=
  if now < a.created ∨ a.expires < now then .ok false
  else verifySignature (Text.bytesOf (signingString a.created a.expires body)) a.signature publicKey

end Authorization

end Enrolment
