import Enrolment.Proofs.Upholds

/-!
# How keys are used

Looking for a keyset, making one and using one leave the records alone.  A key
that has a keyset is served with that keyset and no other, whether it is at hand
or stored.

## Main definitions

* `Proper` — the guarantee that every task gives.

## Main statements

* `Keys.upholds_find` — the keyset that is found is the one of the key.
* `Keys.upholds_ensure` — the key has a keyset afterwards.
* `Challenge.upholds_resolve` — a challenge is answered with that keyset.
-/

namespace Enrolment

/-- Every task asks only for what it may ask for. -/
def Proper : Guarantee
  | .begun _, _ => True
  | .answered task ask _, past => Conduct task past ask

variable {task : Task} {past : List Occurrence} {keyId : String} {keys : Keyset}

/-- What a task does besides meeting the records is quiet. -/
theorem Since.answered {earlier later : List Occurrence} {ask : Ask} {reply : ask.Reply}
    (h : Quiet task.number earlier past) (ho : ByOthers task.number past later)
    (ha : ask.isAccess = false) :
    Quiet task.number earlier (.answered task ask reply :: later) :=
  (h.trans ho.quiet).cons fun _ => ha

/-- A key that was offered a keyset has one. -/
theorem keysAfter_offered (task : Task) (keyId : String) (keys : Keyset) (past : List Occurrence) :
    keysAfter keyId (.answered task (.offerKeys keyId keys)
      (.ok ((keysAfter keyId past).getD keys)) :: past) =
        some ((keysAfter keyId past).getD keys) := by
  cases hk : keysAfter keyId past <;> simp [keysAfter, hk, Occurrence.offered?, Except.toOption]

namespace Keys

/-- A keyset that is kept is the one of the key. -/
theorem upholds_keep (hk : keysAfter keyId past = some keys) :
    (keep keyId keys).Upholds task Proper
      (fun res past' => Quiet task.number past past' ∧ res = .ok keys) past := by
  apply Operation.Upholds.ask_bind
  intro past₁ h₁ _ reply _
  constructor
  · exact keysAfter_mono h₁.suffix hk
  · exact Operation.Upholds.pure ⟨(Since.refl past).answered h₁ rfl, rfl⟩

/-- The keyset that is found is the one of the key; none is found only if the
key had none. -/
theorem upholds_find? :
    (find? keyId).Upholds task Proper (fun res past' => Quiet task.number past past' ∧
      ((res = .ok none ∧ keysAfter keyId past = none) ∨
        ∃ keys, res = .ok (some keys) ∧ keysAfter keyId past' = some keys)) past := by
  apply Operation.Upholds.ask_bind
  intro past₁ h₁ c₁ atHand ht
  refine ⟨trivial, ?_⟩
  have q₁ : Quiet task.number past (.answered task (.keysAtHand keyId) atHand :: past₁) :=
    (Since.refl past).answered h₁ rfl
  cases atHand with
  | some keys =>
    refine Operation.Upholds.pure ⟨q₁, .inr ⟨keys, rfl, ?_⟩⟩
    exact keysAfter_mono (List.suffix_cons _ past₁) (ht keys rfl)
  | none =>
    apply Operation.Upholds.ask_bind
    intro past₂ h₂ c₂ stored hs
    refine ⟨trivial, ?_⟩
    have q₂ : Quiet task.number past (.answered task (.storedKeys keyId) stored :: past₂) :=
      q₁.answered h₂ rfl
    obtain rfl : stored = .ok (keysAfter keyId past₂) := hs
    rw [Operation.ofStore_ok, pure_bind]
    cases hk : keysAfter keyId past₂ with
    | some keys =>
      refine Operation.Upholds.bind (upholds_keep (keysAfter_mono (List.suffix_cons _ _) hk)) ?_ ?_
      · rintro a past₃ - ⟨q₃, hres⟩
        cases hres
        have q : Quiet task.number past past₃ := (hk ▸ q₂).trans q₃
        refine Operation.Upholds.pure ⟨q, .inr ⟨keys, rfl, ?_⟩⟩
        exact keysAfter_mono ((List.suffix_cons _ _).trans q₃.suffix) hk
      · rintro e past₃ - ⟨-, hres⟩
        cases hres
    | none =>
      refine Operation.Upholds.pure ⟨hk ▸ q₂, .inl ⟨rfl, ?_⟩⟩
      by_contra hne
      obtain ⟨keys, hkeys⟩ := Option.ne_none_iff_exists'.1 hne
      have hsuffix : past <:+ past₂ := ((q₁.trans h₂.quiet).suffix)
      simp [keysAfter_mono hsuffix hkeys] at hk

/-- The keyset of a key that has one is found. -/
theorem upholds_find (hk : keysAfter keyId past = some keys) :
    (find keyId).Upholds task Proper
      (fun res past' => Quiet task.number past past' ∧ res = .ok keys) past := by
  refine Operation.Upholds.bind upholds_find? ?_ ?_
  · rintro found past₁ h₁ ⟨q₁, ⟨-, hnone⟩ | ⟨keys', hfound, hkeys'⟩⟩
    · simp [hk] at hnone
    · cases hfound
      obtain rfl : keys' = keys := by simpa [keysAfter_mono h₁ hk] using hkeys'.symm
      exact Operation.Upholds.pure ⟨q₁, rfl⟩
  · rintro e past₁ - ⟨-, ⟨hres, -⟩ | ⟨_, hres, -⟩⟩ <;> cases hres

/-- The public keys of a key that has a keyset are found. -/
theorem upholds_publicKeys (hk : keysAfter keyId past = some keys) :
    (publicKeys keyId).Upholds task Proper
      (fun res past' => Quiet task.number past past' ∧ res = .ok keys.publicKeys) past := by
  rw [publicKeys, map_eq_pure_bind]
  refine Operation.Upholds.bind (upholds_find hk) ?_ ?_
  · rintro a past₁ - ⟨q₁, hres⟩
    cases hres
    exact Operation.Upholds.pure ⟨q₁, rfl⟩
  · rintro e past₁ - ⟨-, hres⟩
    cases hres

/-- A call that makes a registration leaves its key with a keyset. -/
theorem upholds_ensure {identity : Identity} {role : String} {payload : Payload}
    (hc : task.call = .create identity role payload) :
    (ensure identity.keyId).Upholds task Proper (fun res past' => Quiet task.number past past' ∧
      (∃ keys, res = .ok keys) ∧ keysAfter identity.keyId past' ≠ none) past := by
  refine Operation.Upholds.bind upholds_find? ?_ ?_
  · rintro found past₁ - ⟨q₁, ⟨hfound, -⟩ | ⟨keys, hfound, hkeys⟩⟩ <;> cases hfound
    · apply Operation.Upholds.ask_bind
      intro past₂ h₂ _ fresh _
      refine ⟨trivial, ?_⟩
      apply Operation.Upholds.ask_bind
      intro past₃ h₃ _ stored hs
      refine ⟨⟨_, _, _, hc, rfl⟩, ?_⟩
      obtain rfl : stored = .ok ((keysAfter identity.keyId past₃).getD fresh) := hs
      have hk := keysAfter_offered task identity.keyId fresh past₃
      rw [Operation.ofStore_ok, pure_bind]
      refine Operation.Upholds.bind (upholds_keep hk) ?_ ?_
      · rintro a past₄ - ⟨q₄, hres⟩
        cases hres
        have q : Quiet task.number past past₄ := ((q₁.answered h₂ rfl).answered h₃ rfl).trans q₄
        refine Operation.Upholds.pure ⟨q, ⟨_, rfl⟩, ?_⟩
        simp [keysAfter_mono q₄.suffix hk]
      · rintro e past₄ - ⟨-, hres⟩
        cases hres
    · refine Operation.Upholds.pure ⟨q₁, ⟨_, rfl⟩, by simp [hkeys]⟩
  · rintro e past₁ - ⟨-, ⟨hres, -⟩ | ⟨_, hres, -⟩⟩ <;> cases hres

/-- What was sealed for a key that has a keyset is opened with that keyset. -/
theorem upholds_openFrom {blob peer : String} (hk : keysAfter keyId past = some keys) :
    (openFrom keyId blob peer).Upholds task Proper
      (fun res past' => Quiet task.number past past' ∧ res = keys.openFrom blob peer) past := by
  refine Operation.Upholds.bind (upholds_find hk) ?_ ?_
  · rintro a past₁ - ⟨q₁, hres⟩
    cases hres
    cases ho : keys.openFrom blob peer with
    | ok text => exact Operation.Upholds.pure ⟨q₁, rfl⟩
    | error e => exact Operation.Upholds.throw ⟨q₁, rfl⟩
  · rintro e past₁ - ⟨-, hres⟩
    cases hres

/-- A request for a key that has a keyset is signed with that keyset. -/
theorem upholds_authorize {identity : Identity} {body : Bytes} {now : Int}
    (hk : keysAfter identity.keyId past = some keys) :
    (authorize identity body now).Upholds task Proper
      (fun res past' => Quiet task.number past past' ∧ res = .ok
        (Authorization.make identity now (keys.sign (Authorization.message now body))).text)
      past := by
  refine Operation.Upholds.bind (Q := fun res past' => Quiet task.number past past' ∧
    res = .ok (keys.sign (Authorization.message now body))) ?_ ?_ ?_
  · rw [sign, map_eq_pure_bind]
    refine Operation.Upholds.bind (upholds_find hk) ?_ ?_
    · rintro a past₁ - ⟨q₁, hres⟩
      cases hres
      exact Operation.Upholds.pure ⟨q₁, rfl⟩
    · rintro e past₁ - ⟨-, hres⟩
      cases hres
  · rintro a past₁ - ⟨q₁, hres⟩
    cases hres
    exact Operation.Upholds.pure ⟨q₁, rfl⟩
  · rintro e past₁ - ⟨-, hres⟩
    cases hres

end Keys

namespace Challenge

/-- A challenge is answered with the keyset of the key. -/
theorem upholds_resolve {registryKey challenge : String} (hk : keysAfter keyId past = some keys) :
    (resolve registryKey challenge keyId).Upholds task Proper
      (fun res past' => Quiet task.number past past' ∧
        res = answerWith keys registryKey challenge) past := by
  unfold resolve answerWith
  split
  · exact Operation.Upholds.throw ⟨.refl past, rfl⟩
  · have hopen : Operation.Upholds task Proper (fun res past' => Quiet task.number past past' ∧
        res = (keys.openFrom challenge registryKey).mapError asUnanswered)
        (ExceptT.adapt asUnanswered (Keys.openFrom keyId challenge registryKey)) past := by
      refine Operation.Upholds.adapt (Keys.upholds_openFrom hk) ?_
      intro res past₁ _ hres
      exact ⟨hres.1, by rw [hres.2]⟩
    refine Operation.Upholds.bind hopen ?_ ?_
    · rintro answer past₁ - ⟨q₁, hres⟩
      rw [← hres]
      by_cases hempty : answer = ""
      · simp only [hempty, if_true]
        exact Operation.Upholds.throw ⟨q₁, rfl⟩
      · simp only [hempty, if_false]
        exact Operation.Upholds.pure ⟨q₁, rfl⟩
    · rintro e past₁ - ⟨q₁, hres⟩
      rw [← hres]
      exact ⟨q₁, rfl⟩

end Challenge

end Enrolment
