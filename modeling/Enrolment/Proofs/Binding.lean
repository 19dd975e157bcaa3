import Enrolment.Proofs.Header
import Enrolment.Proofs.Signatures
import Enrolment.Proofs.Texts.Utf8

/-!
# What a signature is bound to

The bytes under a signature name the period in which it holds and the digest of
the body, without escapes and without lengths.  No two of these triples are
spelled alike: a number is written in one way only and holds no line break, so
the first two breaks of the text show where both numbers end, whatever the
digest is.  Whoever moves a signature to another period or another digest has
other bytes checked.

The period is looked at first.  Outside of it the signature does not hold, and
neither the key nor the signature is read.

## Main statements

* `signingString_inj` — what is signed tells both ends of the period and the
  digest.
* `verifySignature_eq_ok_iff` — when a signature is checked with an advertised
  key.
* `Authorization.verify_binds` — a signature holds in its period and for its
  digest only.
-/

namespace Enrolment

/-! ## Texts that are spelled in one way -/

namespace Text

/-- No two numbers are written alike. -/
theorem integerText_injective : Function.Injective integerText := by
  intro m n h
  -- a range that holds both of them, for reading asks for one
  let bound := max m.natAbs n.natAbs
  have hread := congrArg (fun s => readInteger bound bound s.toList) h
  rw [readInteger_integerText (by omega) (by omega),
    readInteger_integerText (by omega) (by omega)] at hread
  exact Except.ok.inj hread

/-- A number at the front of a text ends at the first line break. -/
theorem integerText_line_inj {m n : Int} {xs ys : List Char} :
    (integerText m).toList ++ '\n' :: xs = (integerText n).toList ++ '\n' :: ys ↔
      m = n ∧ xs = ys := by
  have hbreak (n : Int) : '\n' ∉ (integerText n).toList := by
    intro hmem
    rcases integerText_chars hmem with hdigit | hminus
    · cases hdigit
    · cases hminus
  constructor
  · intro h
    have hcut := congrArg (cutAt '\n') h
    rw [cutAt_append_sep (hbreak m), cutAt_append_sep (hbreak n)] at hcut
    simpa [String.toList_inj, integerText_injective.eq_iff] using hcut
  · intro ⟨hnumber, hrest⟩
    rw [hnumber, hrest]

theorem bytesOf_injective : Function.Injective bytesOf := by
  intro s t h
  have hread := congrArg text? h
  rw [text?_bytesOf, text?_bytesOf] at hread
  exact Option.some.inj hread

end Text

/-! ## What is signed -/

/-- The characters of what is signed: three lines. -/
theorem toList_signingString (created expires : Int) (body : Bytes) :
    (signingString created expires body).toList = "(created): ".toList ++
      ((Text.integerText created).toList ++ '\n' :: ("(expires): ".toList ++
        ((Text.integerText expires).toList ++ '\n' :: ("digest: ".toList ++
          (bodyDigest body).toList)))) := by
  simp [signingString]

/-- What is signed tells both ends of the period and the digest. -/
theorem signingString_inj {created expires created' expires' : Int} {body body' : Bytes} :
    signingString created expires body = signingString created' expires' body' ↔
      created = created' ∧ expires = expires' ∧ bodyDigest body = bodyDigest body' := by
  simp [← String.toList_inj, toList_signingString, Text.integerText_line_inj]

/-! ## What is checked -/

/-- A signature is checked with the key that is advertised, once it is read. -/
theorem verifySignature_eq_ok_iff {message signature : Bytes} {publicKey : String} {valid : Bool} :
    verifySignature message signature publicKey = .ok valid ↔
      ∃ key, decodeKey publicKey = .ok key ∧
        Crypto.Ed25519.verify key message signature = some valid := by
  constructor
  · intro h
    obtain ⟨key, hkey, h⟩ := bind_eq_ok_iff.1 h
    refine ⟨key, hkey, ?_⟩
    cases hv : Crypto.Ed25519.verify key message signature with
    | none =>
      rw [hv] at h
      cases h
    | some holds =>
      rw [hv] at h
      rw [Except.ok.inj h]
  · intro ⟨key, hkey, hv⟩
    exact verifySignature_eq_ok hkey hv

namespace Authorization

variable {a : Authorization} {now : Int}

/-- Inside the period the signature is checked over the period and the digest. -/
theorem verify_of_within (h : a.created ≤ now ∧ now ≤ a.expires) (body : Bytes)
    (publicKey : String) : a.verify body publicKey now = verifySignature
      (Text.bytesOf (signingString a.created a.expires body)) a.signature publicKey :=
  if_neg (by omega)

/-- Outside the period the signature does not hold, whatever the key. -/
theorem verify_of_outside (h : now < a.created ∨ a.expires < now) (body : Bytes)
    (publicKey : String) : a.verify body publicKey now = .ok false :=
  if_pos h

/-- **A signature is bound to one period and one digest.**  It holds exactly if
the moment lies in the period, both ends included, and the key accepts it on what
is signed for this period and this body.  Outside of the period it does not hold,
whatever the key and the signature are.  And what is signed for another period or
another digest is another text, in other bytes. -/
theorem verify_binds (a : Authorization) (body : Bytes) (publicKey : String) (now : Int) :
    (a.verify body publicKey now = .ok true ↔ (a.created ≤ now ∧ now ≤ a.expires) ∧
      ∃ key, decodeKey publicKey = .ok key ∧ Crypto.Ed25519.verify key
        (Text.bytesOf (signingString a.created a.expires body)) a.signature = some true) ∧
    (now < a.created ∨ a.expires < now → a.verify body publicKey now = .ok false) ∧
    ∀ (created expires : Int) (body' : Bytes),
      (signingString created expires body' = signingString a.created a.expires body ↔
        created = a.created ∧ expires = a.expires ∧ bodyDigest body' = bodyDigest body) ∧
      (Text.bytesOf (signingString created expires body') =
          Text.bytesOf (signingString a.created a.expires body) ↔
        created = a.created ∧ expires = a.expires ∧ bodyDigest body' = bodyDigest body) := by
  refine ⟨?_, fun hout => verify_of_outside hout body publicKey, fun created expires body' =>
    ⟨signingString_inj, Text.bytesOf_injective.eq_iff.trans signingString_inj⟩⟩
  by_cases hin : a.created ≤ now ∧ now ≤ a.expires
  · rw [verify_of_within hin, verifySignature_eq_ok_iff, and_iff_right hin]
  · rw [verify_of_outside (by omega)]
    simp [hin]

/-- A second too early and a second too late, a signature does not hold even for a
text that is no key.  The periods 1 to 23 and 12 to 3 have the same digits in the
same order, and what is signed for them differs. -/
theorem verify_binds_samples :
    (⟨sampleIdentity, 0, 300, []⟩ : Authorization).verify [] "no key" (-1) = .ok false ∧
    (⟨sampleIdentity, 0, 300, []⟩ : Authorization).verify [] "no key" 301 = .ok false ∧
    signingString 1 23 [] ≠ signingString 12 3 [] := by
  let late : Authorization := ⟨sampleIdentity, 0, 300, []⟩
  refine ⟨(verify_binds late [] "no key" (-1)).2.1 (by decide),
    (verify_binds late [] "no key" 301).2.1 (by decide), ?_⟩
  intro h
  have hperiod := ((verify_binds ⟨sampleIdentity, 12, 3, []⟩ [] "no key" 0).2.2 1 23 []).1.1 h
  exact absurd hperiod.1 (by decide)

end Authorization

end Enrolment
