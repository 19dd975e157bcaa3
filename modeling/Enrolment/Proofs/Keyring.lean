import Enrolment.Proofs.Upholds

/-!
# Uses of keys

A keyset may be looked for, made, and used in any number of places at once.  A
use is followed here while others do what they like to the stored keysets, as
long as they replace none: whatever it ends with comes of the keyset that is
stored for its key, and nothing else is kept at hand.

Two uses may draw a keyset for the same key at the same time.  The first one
that is offered is the one that both go on with.

## Main definitions

* `Keys.Use` — what keys are asked for.
* `Keyring` — the stored keysets.
* `Plan.Serves`, `Operation.Serves` — plans that keep to them.

## Main statements

* `Keys.Use.serves_operation` — every use comes to what the stored keyset says.
-/

namespace Enrolment

/-! ## What keys are used for -/

namespace Keys

/-- What a provider is asked for. -/
inductive Use
  /-- The public keys of a key, which is given a keyset if it has none. -/
  | ensure (keyId : String)
  /-- The public keys of a key. -/
  | publicKeys (keyId : String)
  /-- The signature of a message. -/
  | sign (keyId : String) (message : Bytes)
  /-- The text that the holder of a public key sealed for the key. -/
  | openFrom (keyId blob peer : String)

namespace Use

/-- The key. -/
def keyId : Use → String
  | ensure keyId | publicKeys keyId | sign keyId _ | openFrom keyId .. => keyId

/-- What a use ends with if it does not fail. -/
@[reducible] def Result : Use → Type
  | ensure _ | publicKeys _ => PublicKeys
  | sign .. => Bytes
  | openFrom .. => String

/-- What a use does. -/
def operation : (u : Use) → Operation u.Result
  | ensure keyId => Keys.ensure keyId
  | publicKeys keyId => Keys.publicKeys keyId
  | sign keyId message => Keys.sign keyId message
  | openFrom keyId blob peer => Keys.openFrom keyId blob peer

/-- What a use comes to with a keyset. -/
def outcome (keys : Keyset) : (u : Use) → Except ServiceError u.Result
  | ensure _ | publicKeys _ => .ok keys.publicKeys
  | sign _ message => .ok (keys.sign message)
  | openFrom _ blob peer => keys.openFrom blob peer

end Use

end Keys

open Keys (Use)

/-! ## Stored keysets -/

/-- Which keyset each key has. -/
abbrev Keyring := String → Option Keyset

namespace Keyring

variable {κ κ₁ κ₂ : Keyring}

/-- Keysets are added, and none is replaced. -/
def Grows (κ κ' : Keyring) : Prop := ∀ k keys, κ k = some keys → κ' k = some keys

theorem Grows.refl (κ : Keyring) : κ.Grows κ := fun _ _ h => h

theorem Grows.trans (h₁ : κ.Grows κ₁) (h₂ : κ₁.Grows κ₂) : κ.Grows κ₂ :=
  fun k keys h => h₂ k keys (h₁ k keys h)

/-- What may be answered to an ask about keys, and the keysets after it. -/
def Answers (κ : Keyring) : (a : Ask) → a.Reply → Keyring → Prop
  | .storedKeys k, reply, κ' => reply = .ok (κ k) ∧ κ' = κ
  | .offerKeys k keys, reply, κ' => reply = .ok ((κ k).getD keys) ∧
    κ' = fun j => (κ j).or (if j = k then some keys else none)
  | .keysAtHand k, reply, κ' => (∀ keys, reply = some keys → κ k = some keys) ∧ κ' = κ
  | _, _, κ' => κ' = κ

theorem Answers.grows {ask : Ask} {reply : ask.Reply} (h : κ.Answers ask reply κ₁) :
    κ.Grows κ₁ := by
  intro k keys hk
  cases ask with
  | storedKeys | keysAtHand =>
    obtain ⟨-, rfl⟩ := h
    exact hk
  | offerKeys =>
    obtain ⟨-, rfl⟩ := h
    simp [hk]
  | _ =>
    obtain rfl := h
    exact hk

end Keyring

/-- What a use may ask for.  Only what is stored is kept at hand, and only to
ensure that a key has a keyset one is offered. -/
def Keys.Use.Allows (u : Use) (κ : Keyring) : Ask → Prop
  | .storedKeys _ | .keysAtHand _ | .freshKeys => True
  | .keepKeys k keys => κ k = some keys
  | .offerKeys k _ => u = .ensure k
  | _ => False

/-- Whatever other providers do, the plan of a use asks only for what it may ask
for and ends as promised. -/
def Plan.Serves {α : Type} (u : Use) (Q : α → Keyring → Prop) : Plan α → Keyring → Prop
  | done a, κ => Q a κ
  | step ask next, κ => ∀ κ₁, κ.Grows κ₁ → u.Allows κ₁ ask ∧
      ∀ reply κ₂, κ₁.Answers ask reply κ₂ → (next reply).Serves u Q κ₂

/-- A promise that new keysets do not break. -/
def Lasting {α : Type} (Q : α → Keyring → Prop) : Prop :=
  ∀ a κ κ', Keyring.Grows κ κ' → Q a κ → Q a κ'

theorem Plan.Serves.grow {α : Type} {u : Use} {Q : α → Keyring → Prop} {p : Plan α}
    {κ κ' : Keyring} (h : p.Serves u Q κ) (hQ : Lasting Q) (hg : κ.Grows κ') :
    p.Serves u Q κ' := by
  cases p with
  | done a => exact hQ a κ κ' hg h
  | step ask next => exact fun κ₁ h₁ => h κ₁ (hg.trans h₁)

namespace Operation

variable {α β : Type} {u : Use} {κ : Keyring}

/-- The same for an operation. -/
def Serves (u : Use) (Q : Except ServiceError α → Keyring → Prop) (x : Operation α)
    (κ : Keyring) : Prop :=
  x.run.Serves u Q κ

namespace Serves

variable {Q : Except ServiceError α → Keyring → Prop} {R : Except ServiceError β → Keyring → Prop}
  {x : Operation α} {f : α → Operation β}

theorem pure {a : α} (h : Q (.ok a) κ) : (pure a : Operation α).Serves u Q κ := h

theorem throw {e : ServiceError} (h : Q (.error e) κ) : (throw e : Operation α).Serves u Q κ := h

theorem bind (h : x.Serves u Q κ)
    (hok : ∀ a κ', κ.Grows κ' → Q (.ok a) κ' → (f a).Serves u R κ')
    (herr : ∀ e κ', Q (.error e) κ' → R (.error e) κ') : (x >>= f).Serves u R κ := by
  have hplan : ∀ (p : Plan (Except ServiceError α)) (κ' : Keyring), κ.Grows κ' →
      p.Serves u Q κ' → Plan.Serves u R (p >>= ExceptT.bindCont f) κ' := by
    intro p
    induction p with
    | done res =>
      intro κ' hg hp
      cases res with
      | ok a => exact hok a κ' hg hp
      | error e => exact herr e κ' hp
    | step ask next ih =>
      intro κ' hg hp κ₁ h₁
      obtain ⟨hallows, hnext⟩ := hp κ₁ h₁
      refine ⟨hallows, fun reply κ₂ h₂ => ih reply κ₂ ?_ (hnext reply κ₂ h₂)⟩
      exact (hg.trans h₁).trans h₂.grows
  exact hplan x.run κ (.refl κ) h

theorem ask_bind {a : Ask} {f : a.Reply → Operation β}
    (h : ∀ κ₁, κ.Grows κ₁ → u.Allows κ₁ a ∧
      ∀ reply κ₂, κ₁.Answers a reply κ₂ → (f reply).Serves u R κ₂) :
    (Operation.ask a >>= f).Serves u R κ := h

end Serves

end Operation

/-! ## Uses -/

namespace Keys

variable {u : Use} {κ : Keyring} {keyId : String} {keys : Keyset}

theorem serves_keep (hk : κ keyId = some keys) : (keep keyId keys).Serves u
    (fun res κ' => res = .ok keys ∧ κ' keyId = some keys) κ := by
  apply Operation.Serves.ask_bind
  intro κ₁ h₁
  refine ⟨h₁ keyId keys hk, ?_⟩
  rintro reply κ₂ rfl
  exact Operation.Serves.pure ⟨rfl, h₁ keyId keys hk⟩

/-- A keyset that is found is stored. -/
theorem serves_find? : (find? keyId).Serves u (fun res κ' => ∃ found, res = .ok found ∧
    ∀ keys, found = some keys → κ' keyId = some keys) κ := by
  apply Operation.Serves.ask_bind
  intro κ₁ _
  refine ⟨trivial, ?_⟩
  rintro atHand κ₂ ⟨hatHand, rfl⟩
  cases atHand with
  | some keys => exact Operation.Serves.pure ⟨some keys, rfl, hatHand⟩
  | none =>
    apply Operation.Serves.ask_bind
    intro κ₃ _
    refine ⟨trivial, ?_⟩
    rintro stored κ₄ ⟨rfl, rfl⟩
    rw [Operation.ofStore_ok, pure_bind]
    cases hk : κ₄ keyId with
    | none => exact Operation.Serves.pure ⟨none, rfl, nofun⟩
    | some keys =>
      refine Operation.Serves.bind (serves_keep hk) ?_ ?_
      · rintro a κ₅ - ⟨ha, hkeys⟩
        cases ha
        refine Operation.Serves.pure ⟨some keys, rfl, ?_⟩
        rintro keys' ⟨⟩
        exact hkeys
      · rintro e κ₅ ⟨he, -⟩
        cases he

/-- What a stored keyset is used for comes to what the keyset says. -/
theorem serves_find {γ : Type} {f : Keyset → Operation γ}
    {R : Except ServiceError γ → Keyring → Prop} (herr : ∀ e κ', R (.error e) κ')
    (hf : ∀ keys κ', κ' keyId = some keys → (f keys).Serves u R κ') :
    (find keyId >>= f).Serves u R κ := by
  refine Operation.Serves.bind (Q := fun res κ' => ∀ keys, res = .ok keys → κ' keyId = some keys)
    ?_ (fun keys κ' _ hk => hf keys κ' (hk keys rfl)) fun e κ' _ => herr e κ'
  refine Operation.Serves.bind serves_find? ?_ ?_
  · rintro found κ₁ - ⟨found', heq, hk⟩
    cases heq
    cases found with
    | none => exact Operation.Serves.throw nofun
    | some keys =>
      refine Operation.Serves.pure ?_
      rintro keys' ⟨⟩
      exact hk keys rfl
  · rintro e κ₁ ⟨_, heq, -⟩
    cases heq

/-- The same for what is read off the keyset. -/
theorem serves_map_find {γ : Type} {f : Keyset → γ} {R : Except ServiceError γ → Keyring → Prop}
    (herr : ∀ e κ', R (.error e) κ')
    (hf : ∀ keys κ', κ' keyId = some keys → R (.ok (f keys)) κ') :
    (f <$> find keyId).Serves u R κ := by
  rw [map_eq_pure_bind]
  exact serves_find herr fun keys κ' hk => Operation.Serves.pure (hf keys κ' hk)

/-- A use that succeeds comes to what the stored keyset says. -/
def Use.Served (u : Use) (res : Except ServiceError u.Result) (κ : Keyring) : Prop :=
  ∀ a, res = .ok a → ∃ keys, κ u.keyId = some keys ∧ u.outcome keys = .ok a

theorem Use.lasting_served (u : Use) : Lasting u.Served := by
  intro res κ κ' hg hserved a ha
  obtain ⟨keys, hk, houtcome⟩ := hserved a ha
  exact ⟨keys, hg _ keys hk, houtcome⟩

/-- A key is given a keyset only if it has none, and its public keys are those of
the keyset that is stored. -/
theorem serves_ensure : (ensure keyId).Serves (.ensure keyId) (Use.ensure keyId).Served κ := by
  refine Operation.Serves.bind serves_find? ?_ ?_
  · rintro found κ₁ - ⟨found', heq, hk⟩
    cases heq
    cases found with
    | some keys =>
      refine Operation.Serves.pure ?_
      rintro a ⟨⟩
      exact ⟨keys, hk keys rfl, rfl⟩
    | none =>
      apply Operation.Serves.ask_bind
      intro κ₂ _
      refine ⟨trivial, ?_⟩
      rintro fresh κ₃ rfl
      -- Another keyset may have been offered since none was found, and then that
      -- one is stored and kept, not the fresh one.
      apply Operation.Serves.ask_bind
      intro κ₄ _
      refine ⟨rfl, ?_⟩
      rintro stored κ₅ ⟨rfl, rfl⟩
      rw [Operation.ofStore_ok, pure_bind]
      refine Operation.Serves.bind (serves_keep ?_) ?_ ?_
      · cases κ₄ keyId <;> simp
      · rintro keys κ₆ - ⟨hkeys, hstored⟩
        cases hkeys
        refine Operation.Serves.pure ?_
        rintro a ⟨⟩
        exact ⟨_, hstored, rfl⟩
      · rintro e κ₆ ⟨he, -⟩
        cases he
  · rintro e κ₁ ⟨_, heq, -⟩
    cases heq

/-- Every use comes to what the stored keyset says. -/
theorem Use.serves_operation (u : Use) (κ : Keyring) : u.operation.Serves u u.Served κ := by
  cases u with
  | ensure keyId => exact serves_ensure
  | publicKeys keyId =>
    refine serves_map_find (fun e κ' a ha => nomatch ha) ?_
    rintro keys κ' hk a ⟨⟩
    exact ⟨keys, hk, rfl⟩
  | sign keyId message =>
    refine serves_map_find (fun e κ' a ha => nomatch ha) ?_
    rintro keys κ' hk a ⟨⟩
    exact ⟨keys, hk, rfl⟩
  | openFrom keyId blob peer =>
    refine serves_find (fun e κ' a ha => nomatch ha) fun keys κ' hk => ?_
    cases ho : keys.openFrom blob peer with
    | ok text =>
      refine Operation.Serves.pure ?_
      rintro a ⟨⟩
      exact ⟨keys, hk, ho⟩
    | error e => exact Operation.Serves.throw nofun

end Keys

end Enrolment
