import Enrolment.Proofs.Undisturbed

/-!
# Sealed challenges open

What one keyset seals for the advertised key of another is opened by the other
with the advertised key of the first, whatever is sealed, with whatever nonce, and
however the sealed text is padded.  All that is asked of the two keysets is that
their shared secrets agree; the encodings of keys and texts, the derived cipher
and the places of the nonce and the tag are the same on both sides.

## Main definitions

* `Keyset.Agrees` — two keysets share a secret.

## Main statements

* `Keyset.sharedCipher_publicKeys` — the cipher for an advertised key.
* `Keyset.openFrom_padded` — padding does not matter.
* `Keyset.opens_sealed` — sealed challenges open.
-/

namespace Enrolment

open Crypto (X25519.shared X25519.publicKey)

/-- The secret that two keysets share is the same on both sides. -/
def Keyset.Agrees (a b : Keyset) : Prop :=
  X25519.shared a.encryption (X25519.publicKey b.encryption) =
    X25519.shared b.encryption (X25519.publicKey a.encryption)

theorem Crypto.X25519.length_publicKey (secret : Bytes) :
    (publicKey secret).length = keyLength := by
  simp [publicKey, shared, keyLength]

namespace Keyset

variable {a b keys : Keyset} {nonce : Bytes} {text before after blob peer : String}

/-- The cipher that is shared with the holder of an advertised key. -/
theorem sharedCipher_publicKeys : a.sharedCipher b.publicKeys.encryption =
    .ok (Crypto.Aes.encrypt (Crypto.deriveKey
      (X25519.shared a.encryption (X25519.publicKey b.encryption)) sealPurpose)) := by
  rw [sharedCipher, publicKeys, decodeKey_encode (Crypto.X25519.length_publicKey b.encryption)]
  rfl

/-- Both sides have the same cipher. -/
theorem Agrees.sharedCipher (h : a.Agrees b) :
    b.sharedCipher a.publicKeys.encryption = a.sharedCipher b.publicKeys.encryption := by
  rw [sharedCipher_publicKeys, sharedCipher_publicKeys, h]

/-- Every text is sealed for an advertised key. -/
theorem exists_sealFor (a b : Keyset) (nonce : Bytes) (text : String) :
    ∃ blob, a.sealFor nonce text b.publicKeys.encryption = .ok blob :=
  ⟨_, sealFor_eq_ok.2 ⟨_, sharedCipher_publicKeys, rfl⟩⟩

/-- Padding does not matter. -/
theorem openFrom_padded (hb : Text.allBlank before = true) (ha : Text.allBlank after = true) :
    keys.openFrom (before ++ blob ++ after) peer = keys.openFrom blob peer := by
  rw [openFrom, openFrom, Text.trimmed_padded hb ha]

/-- **Sealed challenges open.**  Whatever text is sealed by a keyset for the advertised
key of another that agrees with it, with whatever nonce, and however it is padded,
the other opens it with the advertised key of the first.  Wherever the other is
found for the name of a key, the answer to the challenge is the text; only the
empty text is no answer. -/
theorem opens_sealed (h : a.Agrees b) (hnonce : nonce.length = Crypto.Gcm.nonceLength)
    (text : String) (hb : Text.allBlank before = true) (ha : Text.allBlank after = true) :
    ∃ blob, a.sealFor nonce text b.publicKeys.encryption = .ok blob ∧
      b.openFrom (before ++ blob ++ after) a.publicKeys.encryption = .ok text ∧
      ∀ (σ : Type) (answer : (ask : Ask) → σ → Option ask.Reply × σ) (w w₁ : σ) (keyId : String),
        (Keys.find keyId).runIn answer w = (some (.ok b), w₁) →
          (Challenge.resolve a.publicKeys.encryption (before ++ blob ++ after) keyId).runIn
              answer w =
            (some (if text = "" then .error (.decryption .emptyAnswer) else .ok text), w₁) := by
  obtain ⟨blob, hblob⟩ := exists_sealFor a b nonce text
  have hopen : b.openFrom (before ++ blob ++ after) a.publicKeys.encryption = .ok text := by
    rw [openFrom_padded hb ha]
    exact openFrom_sealFor hblob hnonce h.sharedCipher
  refine ⟨blob, hblob, hopen, fun σ answer w w₁ keyId hfind => ?_⟩
  have hblank : Text.trimmed (before ++ blob ++ after) ≠ "" := fun hempty => by
    rw [Text.trimmed_padded hb ha, Text.trimmed_eq_empty_iff,
      allBlank_sealFor hblob hnonce] at hempty
    cases hempty
  have hopened : (Keys.openFrom keyId (before ++ blob ++ after) a.publicKeys.encryption).runIn
      answer w = (some (.ok text), w₁) := by
    rw [Keys.runIn_openFrom hfind, hopen]
  exact Service.runIn_resolve hblank hopened

/-- Two keysets with different secrets agree, and the padded text is the answer of
a process that has the second one at hand. -/
theorem opens_padded_greeting : ∃ (a b : Keyset) (blob : String), a.encryption ≠ b.encryption ∧
    a.Agrees b ∧ a.sealFor (List.replicate 12 7) "grüezi" b.publicKeys.encryption = .ok blob ∧
    b.openFrom ("\u2003\n" ++ blob ++ "\u3000") a.publicKeys.encryption = .ok "grüezi" ∧
    (Challenge.resolve a.publicKeys.encryption ("\u2003\n" ++ blob ++ "\u3000") "key").runIn
        Draws.sample.answer ⟨.empty, [⟨.sample, [("key", b)]⟩]⟩ =
      (some (.ok "grüezi"), ⟨.empty, [⟨.sample, [("key", b)]⟩]⟩) := by
  have hagrees : Agrees ⟨[], [1]⟩ ⟨[], [8]⟩ := by
    unfold Agrees
    decide +kernel
  have hnonce : (List.replicate 12 7 : Bytes).length = Crypto.Gcm.nonceLength := rfl
  have hbefore : Text.allBlank "\u2003\n" = true := by decide
  have hafter : Text.allBlank "\u3000" = true := by decide
  obtain ⟨blob, hblob, hopen, hresolve⟩ := opens_sealed hagrees hnonce "grüezi" hbefore hafter
  exact ⟨_, _, blob, by decide, hagrees, hblob, hopen,
    hresolve _ Draws.sample.answer _ _ "key" (Keys.runIn_find rfl)⟩

end Keyset

end Enrolment
