import Enrolment.Proofs.Signatures
import Enrolment.Proofs.Texts.Utf8

/-!
# Texts that are sealed

A sealed text travels in Base64, behind its nonce.  Whoever has the same cipher
opens it: nothing of it is blank, so that nothing is taken off its ends.

## Main statements

* `Keyset.sealFor_eq_ok` — what a sealed text is.
* `Keyset.openFrom_sealFor` — what was sealed is opened.
-/

namespace Enrolment

/-- What was encoded is not blank, unless it is nothing. -/
theorem Text.allBlank_encode {bs : Bytes} (h : bs ≠ []) : allBlank (Base64.encode bs) = false := by
  rw [allBlank, List.all_eq_false]
  cases hs : (Base64.encode bs).toList with
  | nil =>
    have hempty : Base64.encode bs = "" := String.toList_inj.1 hs
    have hbytes := Base64.decode_encode bs
    rw [hempty] at hbytes
    exact absurd (Except.ok.inj hbytes).symm h
  | cons c cs =>
    refine ⟨c, List.mem_cons_self, ?_⟩
    rw [Base64.isBlank_of_mem_encode (hs ▸ List.mem_cons_self)]
    exact Bool.false_ne_true

namespace Keyset

variable {keys holder : Keyset} {nonce : Bytes} {text peer sender blob : String}

theorem sealFor_eq_ok : keys.sealFor nonce text peer = .ok blob ↔
    ∃ cipher, keys.sharedCipher peer = .ok cipher ∧
      Text.Base64.encode (nonce ++ Crypto.Gcm.sealed cipher nonce (Text.bytesOf text)) = blob := by
  rw [sealFor]
  cases keys.sharedCipher peer <;> simp [bind, Except.bind, pure, Except.pure]

/-- What was sealed is opened by whoever has the same cipher. -/
theorem openFrom_sealFor (h : keys.sealFor nonce text peer = .ok blob)
    (hnonce : nonce.length = Crypto.Gcm.nonceLength)
    (hcipher : holder.sharedCipher sender = keys.sharedCipher peer) :
    holder.openFrom blob sender = .ok text := by
  obtain ⟨cipher, hc, rfl⟩ := sealFor_eq_ok.1 h
  have hlong : ¬(nonce ++ Crypto.Gcm.sealed cipher nonce (Text.bytesOf text)).length ≤
      Crypto.Gcm.nonceLength := by
    simp [Crypto.Gcm.sealed, Crypto.Gcm.tagLength, hnonce]
  have hsplit : (nonce ++ Crypto.Gcm.sealed cipher nonce (Text.bytesOf text)).splitAt
      Crypto.Gcm.nonceLength = (nonce, Crypto.Gcm.sealed cipher nonce (Text.bytesOf text)) := by
    rw [← hnonce, List.splitAt_eq, List.take_left, List.drop_left]
  have hopens : Crypto.Gcm.openSealed cipher nonce
      (Crypto.Gcm.sealed cipher nonce (Text.bytesOf text)) = some (Text.bytesOf text) :=
    Crypto.Gcm.openSealed_sealed cipher nonce _
  rw [openFrom, Text.trimmed_of_isBlank fun _ => Text.Base64.isBlank_of_mem_encode,
    Text.Base64.decode_encode]
  simp only [if_neg hlong, hcipher, hc, hsplit, Except.mapError, pure, Except.pure, bind,
    Except.bind, hopens, Text.text?_bytesOf]

/-- What is sealed is not blank. -/
theorem allBlank_sealFor (h : keys.sealFor nonce text peer = .ok blob)
    (hnonce : nonce.length = Crypto.Gcm.nonceLength) : Text.allBlank blob = false := by
  obtain ⟨cipher, -, rfl⟩ := sealFor_eq_ok.1 h
  refine Text.allBlank_encode fun hnil => ?_
  rw [(List.append_eq_nil_iff.1 hnil).1] at hnonce
  cases hnonce

end Keyset

end Enrolment
