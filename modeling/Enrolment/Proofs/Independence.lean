import Enrolment.Proofs.Abreast

/-!
# Registrations that do not touch

A call for an identity reads the record of that identity and the keyset of its
key, and writes nothing else.  So it leaves the records of all others alone and
does not depend on them, and two calls for different identities may change places,
even if both identities have the same key.

## Main definitions

* `Surroundings.Spares` — nothing else was written.
* `Beside` — what two runs of a call for an identity have in common.
* `SoloCall`, `SoloCall.result`, `SoloCall.after` — a call by itself, and what it
  comes to.
* `SoloCall.Secluded`, `SoloCall.Commute` — it does not depend on others, and may
  change places with another one.

## Main statements

* `beside_stageMatch` — the rules of operations side by side apply.
* `Service.Call.beside` — both runs of a call come to the same.
* `SoloCall.commute` — calls for different identities may change places.
* `independent_calls` — so they may in whatever is reached from an empty store.
-/

namespace Enrolment

variable {i j : Identity} {p : Nat} {made : Keyset} {s s' s'' : Surroundings} {keyId : String}

/-! ## What is spared -/

/-- Only the record of an identity may have been written, and only its key may have
been given a keyset, which is the one that was made.  Keysets that came to hand
are stored. -/
structure Surroundings.Spares (i : Identity) (made : Keyset) (s s' : Surroundings) : Prop where
  /-- The records of others are what they were. -/
  records : ∀ j, j ≠ i → s'.store.get? j = s.store.get? j
  /-- So are keysets, unless the key had none. -/
  keysets : ∀ k, s'.store.keys? k = s.store.keys? k ∨
    k = i.keyId ∧ s.store.keys? k = none ∧ s'.store.keys? k = some made
  /-- What is at hand was at hand, or is stored. -/
  atHand : ∀ q k keys, s'.atHand q k = some keys →
    s.atHand q k = some keys ∨ s'.store.keys? k = some keys

namespace Surroundings.Spares

theorem refl (s : Surroundings) : s.Spares i made s where
  records _ _ := rfl
  keysets _ := .inl rfl
  atHand _ _ _ := .inl

/-- Keysets stay. -/
theorem keys?_mono (h : s.Spares i made s') {keys : Keyset} (hk : s.store.keys? keyId = some keys) :
    s'.store.keys? keyId = some keys := by
  rcases h.keysets keyId with heq | ⟨-, hnone, -⟩
  · rw [heq, hk]
  · rw [hk] at hnone
    cases hnone

/-- A keyset that there was is there. -/
theorem keys?_or (h : s.Spares i made s') (k : String) :
    (s'.store.keys? k).or (s.store.keys? k) = s'.store.keys? k := by
  cases hk : s.store.keys? k with
  | none => rw [Option.or_none]
  | some keys => rw [h.keys?_mono hk, Option.some_or]

theorem or_keys? (h : s.Spares i made s') (k : String) :
    (s.store.keys? k).or (s'.store.keys? k) = s'.store.keys? k := by
  cases hk : s.store.keys? k with
  | none => rw [Option.none_or]
  | some keys => rw [h.keys?_mono hk, Option.some_or]

theorem keys?_of_ne (h : s.Spares i made s') {k : String} (hk : k ≠ i.keyId) :
    s'.store.keys? k = s.store.keys? k :=
  (h.keysets k).resolve_right fun hmade => hk hmade.1

theorem trans (h : s.Spares i made s') (h' : s'.Spares i made s'') : s.Spares i made s'' where
  records j hj := (h'.records j hj).trans (h.records j hj)
  keysets k := by
    rcases h.keysets k with heq | ⟨hk, hnone, hmade⟩
    · rw [← heq]
      exact h'.keysets k
    · exact .inr ⟨hk, hnone, h'.keys?_mono hmade⟩
  atHand q k keys hq := by
    rcases h'.atHand q k keys hq with hhand | hstored
    · exact (h.atHand q k keys hhand).imp_right h'.keys?_mono
    · exact .inr hstored

theorem put {old new : Record} (hs : s.store.get? new.identity = some old) :
    s.Spares new.identity made { s with store := (s.store.put new old.version).2 } where
  records j hj := by rw [Store.get?_put hs, if_neg hj]
  keysets k := .inl Store.keys?_put
  atHand _ _ _ := .inl

theorem create {r : Record} (hs : s.store.get? r.identity = none) :
    s.Spares r.identity made { s with store := (s.store.create r).2 } where
  records j hj := by rw [Store.get?_create hs, if_neg hj]
  keysets k := .inl Store.keys?_create
  atHand _ _ _ := .inl

/-- A stored keyset may be kept at hand. -/
theorem keep {keys : Keyset} (hs : s.store.keys? keyId = some keys) :
    s.Spares i made (s.keep p keyId keys) where
  records _ _ := rfl
  keysets _ := .inl rfl
  atHand q k ks hq := by
    rw [atHand_keep] at hq
    split at hq
    · rename_i hwhich
      obtain ⟨-, rfl, -⟩ := hwhich
      exact .inr (hq ▸ hs)
    · exact .inl hq

theorem warm : s.Spares i made (s.warm p keyId) := by
  unfold Surroundings.warm
  split
  · exact .keep ‹_›
  · exact .refl s

theorem supply : s.Spares i made (s.supply p i.keyId made) := by
  unfold Surroundings.supply
  split
  · exact .warm
  · rename_i hfound
    obtain ⟨-, hnone⟩ := Option.or_eq_none_iff.1 hfound
    have hoffered : s.Spares i made { s with store := (s.store.offerKeys i.keyId made).2 } := by
      refine ⟨fun _ _ => Store.get?_offerKeys, ?_, fun _ _ _ => .inl⟩
      intro k
      rw [Store.keys?_offerKeys]
      by_cases hk : k = i.keyId
      · subst hk
        simp [hnone]
      · simp [hk]
    exact hoffered.trans (.keep (by simp [Store.keys?_offerKeys, hnone]))

end Surroundings.Spares

/-! ## Side by side -/

/-- What two runs of a call for an identity have in common, which began at two
stages: they draw the same, find the same record, and find the same keyset for its
key.  The first one may still find none, while there is no record, where the
second one finds the keyset that both would make. -/
structure Beside (p : Nat) (i : Identity) (spare : Option Keyset) (t₀ u₀ t u : Stage) : Prop where
  /-- They draw the same. -/
  lot : u.lot = t.lot
  /-- They make the same keyset. -/
  keys : t.lot.keys = t₀.lot.keys
  /-- The same record is stored. -/
  record : u.store.get? i = t.store.get? i
  /-- The second one has the first one's keyset, or the spare one. -/
  found : u.surroundings.found p i.keyId = (t.surroundings.found p i.keyId).or spare
  /-- The spare one is the one that is made. -/
  spare_eq : spare = none ∨ spare = some t₀.lot.keys
  /-- Without it, or with a record, both have the same. -/
  settled : spare = none ∨
    (t.store.get? i ≠ none → t.surroundings.found p i.keyId ≠ none)
  /-- The first run spares the others. -/
  left : t₀.surroundings.Spares i t₀.lot.keys t.surroundings
  /-- So does the second one. -/
  right : u₀.surroundings.Spares i t₀.lot.keys u.surroundings

/-- Besides, they find the same keyset. -/
structure BesideReady (p : Nat) (i : Identity) (spare : Option Keyset) (t₀ u₀ t u : Stage) :
    Prop extends Beside p i spare t₀ u₀ t u where
  /-- The spare one is not used. -/
  ready : spare = none ∨ t.surroundings.found p i.keyId ≠ none

variable {spare : Option Keyset} {t₀ u₀ t u : Stage}

theorem BesideReady.found_eq (h : BesideReady p i spare t₀ u₀ t u) :
    u.surroundings.found p i.keyId = t.surroundings.found p i.keyId := by
  rw [h.found]
  rcases h.ready with rfl | hfound
  · rw [Option.or_none]
  · obtain ⟨keys, hkeys⟩ := Option.ne_none_iff_exists'.1 hfound
    rw [hkeys, Option.some_or]

/-- Where there is a record, they find the same keyset. -/
theorem Beside.ready (h : Beside p i spare t₀ u₀ t u) (hr : t.store.get? i ≠ none) :
    BesideReady p i spare t₀ u₀ t u :=
  ⟨h, h.settled.imp_right fun hfound => hfound hr⟩

/-- They draw the same. -/
theorem Beside.draw (h : Beside p i spare t₀ u₀ t u) (ask : Ask) (ha : ask.isDrawn = true) :
    (u.respond p ask).1 = (t.respond p ask).1 ∧
      Beside p i spare t₀ u₀ (t.respond p ask).2 (u.respond p ask).2 := by
  obtain ⟨hreply, ht, hu⟩ := Stage.respond_of_isDrawn (p := p) ha h.lot
  rw [ht, hu]
  exact ⟨hreply, rfl, (Lot.keys_after _ _).trans h.keys, h.record, h.found, h.spare_eq, h.settled,
    h.left, h.right⟩

/-- A keyset is looked for. -/
theorem Beside.warm (h : Beside p i spare t₀ u₀ t u) :
    Beside p i spare t₀ u₀ (t.warm p i.keyId) (u.warm p i.keyId) where
  lot := h.lot
  keys := h.keys
  record := by simpa [Stage.warm, Stage.store] using h.record
  found := by simpa [Stage.warm] using h.found
  spare_eq := h.spare_eq
  settled := by simpa [Stage.warm, Stage.store] using h.settled
  left := h.left.trans .warm
  right := h.right.trans .warm

/-- The key is given a keyset, unless it has one. -/
theorem Beside.supply (h : Beside p i spare t₀ u₀ t u) :
    BesideReady p i spare t₀ u₀ (t.supply p i.keyId) (u.supply p i.keyId) where
  lot := h.lot
  keys := h.keys
  record := by simpa [Stage.supply, Stage.store] using h.record
  found := by
    simp only [Stage.supply, Surroundings.found_supply, Option.some_or, h.found, h.lot, h.keys]
    cases t.surroundings.found p i.keyId with
    | some keys => rfl
    | none => rcases h.spare_eq with rfl | rfl <;> rfl
  spare_eq := h.spare_eq
  settled := .inr fun _ => by simp [Stage.supply, Surroundings.found_supply]
  left := h.left.trans (h.keys ▸ .supply)
  right := h.right.trans (h.keys ▸ h.lot ▸ .supply)
  ready := .inr (by simp [Stage.supply, Surroundings.found_supply])

namespace BesideReady

/-- They draw the same. -/
theorem draw (h : BesideReady p i spare t₀ u₀ t u) (ask : Ask) (ha : ask.isDrawn = true) :
    (u.respond p ask).1 = (t.respond p ask).1 ∧
      BesideReady p i spare t₀ u₀ (t.respond p ask).2 (u.respond p ask).2 := by
  obtain ⟨hreply, hnext⟩ := h.toBeside.draw ask ha
  refine ⟨hreply, hnext, ?_⟩
  rw [(Stage.respond_of_isDrawn (p := p) ha h.lot).2.1]
  exact h.ready

/-- A keyset is looked for. -/
theorem warm (h : BesideReady p i spare t₀ u₀ t u) :
    BesideReady p i spare t₀ u₀ (t.warm p i.keyId) (u.warm p i.keyId) :=
  ⟨h.toBeside.warm, by simpa [Stage.warm] using h.ready⟩

/-- The record is written. -/
theorem write (h : BesideReady p i spare t₀ u₀ t u) {store store' : Store}
    (hr : store'.get? i = store.get? i) (hk : store.keys? i.keyId = t.store.keys? i.keyId)
    (hk' : store'.keys? i.keyId = u.store.keys? i.keyId)
    (hl : t.surroundings.Spares i t₀.lot.keys { t.surroundings with store := store })
    (hl' : u.surroundings.Spares i t₀.lot.keys { u.surroundings with store := store' }) :
    Beside p i spare t₀ u₀ ⟨t.lot, { t.surroundings with store := store }⟩
      ⟨u.lot, { u.surroundings with store := store' }⟩ where
  lot := h.lot
  keys := h.keys
  record := hr
  found := by rw [Surroundings.found_withStore hk, Surroundings.found_withStore hk', h.found]
  spare_eq := h.spare_eq
  settled := by
    rw [Surroundings.found_withStore hk]
    exact h.ready.imp_right fun hfound _ => hfound
  left := h.left.trans hl
  right := h.right.trans hl'

/-- They find the same keyset. -/
theorem find (h : BesideReady p i spare t₀ u₀ t u) :
    Operation.Abreast p (BesideReady p i spare t₀ u₀) (· = ·) (Keys.find i.keyId)
      (Keys.find i.keyId) t u := by
  refine .of_solo Keys.solo_find Keys.solo_find ?_ h.warm
  rw [h.found_eq]
  exact .refl

end BesideReady

/-- The same record of the identity. -/
abbrev SameRecord (i : Identity) (r r' : Record) : Prop := r.identity = i ∧ r' = r

theorem sameRecord_recordMatch (i : Identity) : RecordMatch i (SameRecord i) where
  identity := by
    rintro r _ ⟨hi, rfl⟩
    exact ⟨hi, hi⟩
  version := by
    rintro r _ ⟨-, rfl⟩
    rfl
  status := by
    rintro r _ ⟨-, rfl⟩
    rfl
  same := by
    rintro r _ role payload ⟨-, rfl⟩
    rfl
  refl := fun hi => ⟨hi, rfl⟩
  withStatus := by
    rintro r _ status now ⟨hi, rfl⟩
    exact ⟨hi, rfl⟩
  withRegistration := by
    rintro r _ role payload ⟨hi, rfl⟩
    exact ⟨hi, rfl⟩
  withMessageId := by
    rintro r _ messageId ⟨hi, rfl⟩
    exact ⟨hi, rfl⟩
  withVersion := by
    rintro r _ version ⟨hi, rfl⟩
    exact ⟨hi, rfl⟩

/-- Calls for the identity go the same way side by side. -/
theorem beside_stageMatch (p : Nat) (i : Identity) (spare : Option Keyset) (t₀ u₀ : Stage) :
    StageMatch p i (SameRecord i) (Beside p i spare t₀ u₀) (BesideReady p i spare t₀ u₀) where
  records := sameRecord_recordMatch i
  of_ready := BesideReady.toBeside
  clock := fun h => h.draw .clock rfl
  lookup := by
    intro t u h
    rw [h.record]
    cases hr : t.store.get? i with
    | none => exact .none
    | some r => exact .some ⟨Store.identity_of_get? hr, rfl⟩
  replace := by
    rintro t u old _ new _ h ht hu ⟨-, rfl⟩ ⟨rfl, rfl⟩
    refine (h.ready (by simp [ht])).write ?_ Store.keys?_put Store.keys?_put (.put ht) (.put hu)
    rw [Store.get?_put ht, Store.get?_put hu, if_pos rfl, if_pos rfl]
  insert := by
    rintro t u r h ht hu rfl
    refine h.write ?_ Store.keys?_create Store.keys?_create (.create ht) (.create hu)
    rw [Store.get?_create ht, Store.get?_create hu, if_pos rfl, if_pos rfl]
  warm := by
    intro t u h hr
    exact ⟨by rw [(h.ready hr).found_eq], h.warm⟩
  supply := Beside.supply

/-! ## Challenges -/

/-- Who has the same keyset opens the same texts. -/
theorem BesideReady.openFrom (h : BesideReady p i spare t₀ u₀ t u) (blob peer : String) :
    Operation.Abreast p (BesideReady p i spare t₀ u₀) (· = ·) (Keys.openFrom i.keyId blob peer)
      (Keys.openFrom i.keyId blob peer) t u := by
  refine .bind h.find ?_ fun _ _ h => h
  rintro keys _ t₁ u₁ h₁ rfl
  exact .ofExcept h₁

/-- A challenge is resolved alike. -/
theorem BesideReady.resolve (h : BesideReady p i spare t₀ u₀ t u) (registryKey challenge : String) :
    Operation.Abreast p (BesideReady p i spare t₀ u₀) (· = ·)
      (Challenge.resolve registryKey challenge i.keyId)
      (Challenge.resolve registryKey challenge i.keyId) t u := by
  unfold Challenge.resolve
  split
  · exact .throw _ h
  refine .bind ((h.openFrom challenge registryKey).adapt _) ?_ fun _ _ h => h
  rintro answer _ t₁ u₁ h₁ rfl
  split
  · exact .throw _ h₁
  · exact .pure h₁ rfl

/-- An answer is kept alike. -/
theorem sameRecord_respects_keepAnswer (answer : String) :
    (keepAnswer answer).Respects (SameRecord i) := by
  rintro now _ r ⟨hi, rfl⟩
  cases hch : keepAnswer answer now r with
  | error e => exact .error e
  | ok decided =>
    cases decided with
    | none => exact .ok .none
    | some next =>
      obtain ⟨-, -, rfl⟩ := keepAnswer_eq_some_iff.1 hch
      exact .ok (.some ⟨hi, rfl⟩)

/-- A challenge that names the key is answered alike. -/
theorem Beside.answerChallenge (h : Beside p i spare t₀ u₀ t u) (s : Service) (challenge : String) :
    Operation.Abreast p (Beside p i spare t₀ u₀) (· = ·)
      (s.answerChallenge i.subscriberId (some i.keyId) challenge)
      (s.answerChallenge i.subscriberId (some i.keyId) challenge) t u := by
  have hm := beside_stageMatch p i spare t₀ u₀
  refine hm.lookup_bind h ?_
  rintro current _ ht - ⟨rfl, rfl⟩
  refine .ofExcept_bind h fun _ _ => ?_
  refine .bind ((h.ready (by simp [ht])).resolve s.registryKey challenge) ?_
    fun _ _ => BesideReady.toBeside
  rintro answer _ t₁ u₁ h₁ rfl
  refine .bind (hm.revise (sameRecord_respects_keepAnswer answer) h₁.toBeside) ?_ fun _ _ h => h
  intro _ _ t₂ u₂ h₂ _
  exact .pure h₂ rfl

/-! ## Rounds -/

/-- A request is signed alike. -/
theorem BesideReady.authorize (h : BesideReady p i spare t₀ u₀ t u) (body : Bytes) (now : Int) :
    Operation.Abreast p (BesideReady p i spare t₀ u₀) (· = ·) (Keys.authorize i body now)
      (Keys.authorize i body now) t u := by
  have hsign : Operation.Abreast p (BesideReady p i spare t₀ u₀) (· = ·)
      (Keys.sign i.keyId (Authorization.message now body))
      (Keys.sign i.keyId (Authorization.message now body)) t u :=
    h.find.map fun _ _ => congrArg fun keys : Keyset => keys.sign (Authorization.message now body)
  refine .bind hsign ?_ fun _ _ h => h
  rintro signature _ t₁ u₁ h₁ rfl
  exact .pure h₁ rfl

/-- The registry is called alike. -/
theorem BesideReady.callRegistry (h : BesideReady p i spare t₀ u₀ t u) {request : Request}
    (hi : request.identity = i) (kind : RoundKind) :
    (Service.callRegistry request kind).Alike p (BesideReady p i spare t₀ u₀) t u := by
  have hcall {t u : Stage} (header : Option String) (h : BesideReady p i spare t₀ u₀ t u) :
      (Plan.ask (.call request header)).Alike p (BesideReady p i spare t₀ u₀) t u := by
    obtain ⟨hreply, hnext⟩ := h.draw (.call request header) rfl
    exact .ask hreply hnext
  subst hi
  cases kind with
  | initial => exact hcall none h
  | update =>
    obtain ⟨hreply, hnext⟩ := h.draw .clock rfl
    refine .bind (.ask hreply hnext) fun now t₁ u₁ h₁ => ?_
    refine .bind (.run (h₁.authorize request.body now.unixSeconds)) ?_
    rintro (e | header) t₂ u₂ h₂
    · exact .pure h₂
    · exact hcall (some header) h₂

/-- Both wait alike. -/
theorem BesideReady.pauseAfter (h : BesideReady p i spare t₀ u₀ t u) (retry : Backoff)
    (attempt : Nat) :
    (Service.pauseAfter retry attempt).Alike p (BesideReady p i spare t₀ u₀) t u := by
  have hpause {t u : Stage} (drawn : Nat) (h : BesideReady p i spare t₀ u₀ t u) :
      (Plan.ask (.pause (retry.delay attempt drawn))).Alike p (BesideReady p i spare t₀ u₀)
        t u := by
    obtain ⟨hreply, hnext⟩ := h.draw (.pause (retry.delay attempt drawn)) rfl
    exact .ask hreply hnext
  unfold Service.pauseAfter
  by_cases hmost : retry.maxJitter attempt = 0
  · simp only [hmost, if_true]
    exact hpause 0 h
  · simp only [hmost, if_false]
    obtain ⟨hreply, hnext⟩ := h.draw (.chance (retry.maxJitter attempt)) rfl
    exact .bind (.ask hreply hnext) fun drawn _ _ => hpause drawn

/-- A round goes alike. -/
theorem BesideReady.register (h : BesideReady p i spare t₀ u₀ t u) (s : Service) {r : Record}
    (hi : r.identity = i) (kind : RoundKind) :
    Operation.Abreast p (Beside p i spare t₀ u₀) (SameRecord i) (s.register r kind)
      (s.register r kind) t u := by
  have hm := beside_stageMatch p i spare t₀ u₀
  subst hi
  have hpublic : Operation.Abreast p (BesideReady p r.identity spare t₀ u₀) (· = ·)
      (Keys.publicKeys r.identity.keyId) (Keys.publicKeys r.identity.keyId) t u :=
    h.find.map fun _ _ => congrArg _
  refine .bind hpublic ?_ fun _ _ => BesideReady.toBeside
  rintro keys _ t₁ u₁ h₁ rfl
  obtain ⟨hreply, h₂⟩ := h₁.draw .freshName rfl
  refine .ask_bind ?_
  rw [hreply]
  refine .lift_bind (.runFrom (fun n _ _ h => h.pauseAfter s.retry n)
    (fun _ _ _ h => h.callRegistry rfl kind) _ _ h₂) ?_
  intro outcome t₃ u₃ h₃
  exact hm.conclude h₃.toBeside rfl outcome

/-! ## Calls -/

/-- Both runs of a call come to the same. -/
theorem Service.Call.beside {c : Service.Call} (hc : c.subject? = some i) (s : Service)
    (h : Beside p i spare t₀ u₀ t u)
    (hround : c.isRound = true → BesideReady p i spare t₀ u₀ t u) :
    Operation.Abreast p (Beside p i spare t₀ u₀) (· = ·) (c.operation s) (c.operation s) t u := by
  have hm := beside_stageMatch p i spare t₀ u₀
  have hsame {x : Operation Record}
      (hx : Operation.Abreast p (Beside p i spare t₀ u₀) (SameRecord i) x x t u) :
      Operation.Abreast p (Beside p i spare t₀ u₀) (· = ·) x x t u :=
    hx.mono (fun _ _ h => h) fun _ _ h => h.2.symm
  cases c with
  | create =>
    obtain rfl := Option.some.inj hc
    exact hsame (hm.create h)
  | update =>
    obtain rfl := Option.some.inj hc
    exact hsame (hm.update h)
  | pushStatus identity status =>
    obtain rfl := Option.some.inj hc
    exact hsame (hm.pushStatus h status)
  | get =>
    obtain rfl := Option.some.inj hc
    exact hsame (hm.get h)
  | answerChallenge subscriberId keyId challenge =>
    cases keyId with
    | none => cases hc
    | some keyId =>
      obtain rfl := Option.some.inj hc
      exact h.answerChallenge s challenge
  | register r kind =>
    obtain rfl := Option.some.inj hc
    exact hsame ((hround rfl).register s rfl kind)
  | readiness | resume => cases hc

/-! ## Calls by themselves -/

/-- A call that runs by itself. -/
structure SoloCall where
  /-- The process that it runs in. -/
  process : Nat
  /-- What the process was started with. -/
  service : Service
  /-- The call. -/
  call : Service.Call
  /-- What it draws. -/
  lot : Lot

namespace SoloCall

/-- What the call comes to. -/
def result (a : SoloCall) (s : Surroundings) : Except ServiceError a.call.Result :=
  ((a.call.operation a.service).solo a.process ⟨a.lot, s⟩).1

/-- What is there after it. -/
def after (a : SoloCall) (s : Surroundings) : Surroundings :=
  ((a.call.operation a.service).solo a.process ⟨a.lot, s⟩).2.surroundings

/-- The call, for an identity, leaves the records of others alone, and does not
depend on them. -/
structure Secluded (a : SoloCall) (i : Identity) : Prop where
  /-- The records of others are what they were. -/
  records : ∀ s j, j ≠ i → (a.after s).store.get? j = s.store.get? j
  /-- The call comes to the same where the record of the identity and the keyset of
  its key are the same, whatever else is there. -/
  result : ∀ s s' : Surroundings, s'.store.get? i = s.store.get? i →
    s'.store.keys? i.keyId = s.store.keys? i.keyId →
      s'.atHand a.process i.keyId = s.atHand a.process i.keyId →
        a.result s' = a.result s ∧ (a.after s').store.get? i = (a.after s).store.get? i

/-- The calls may change places. -/
structure Commute (a b : SoloCall) (s : Surroundings) : Prop where
  /-- The one comes to the same. -/
  left : a.result (b.after s) = a.result s
  /-- So does the other one. -/
  right : b.result (a.after s) = b.result s
  /-- The records are the same in the end. -/
  records : ∀ i, (b.after (a.after s)).store.get? i = (a.after (b.after s)).store.get? i
  /-- So are the keysets. -/
  keysets : ∀ k, (b.after (a.after s)).store.keys? k = (a.after (b.after s)).store.keys? k

end SoloCall

/-- What two runs of a call come to. -/
theorem SoloCall.beside {a : SoloCall} {spare : Option Keyset} (hc : a.call.subject? = some i)
    (h : Beside a.process i spare ⟨a.lot, s⟩ ⟨a.lot, s'⟩ ⟨a.lot, s⟩ ⟨a.lot, s'⟩)
    (hround : a.call.isRound = true → spare = none ∨ s.found a.process i.keyId ≠ none) :
    a.result s' = a.result s ∧ ∃ t u : Stage, t.surroundings = a.after s ∧
      u.surroundings = a.after s' ∧ Beside a.process i spare ⟨a.lot, s⟩ ⟨a.lot, s'⟩ t u := by
  obtain ⟨hend, hS⟩ := Service.Call.beside hc a.service h fun hr => ⟨h, hround hr⟩
  exact ⟨hend.eq.symm, _, _, rfl, rfl, hS⟩

/-- Where the same record and the same keyset are found, a call comes to the
same. -/
theorem SoloCall.beside_self {a : SoloCall} (hc : a.call.subject? = some i)
    (hr : s'.store.get? i = s.store.get? i)
    (hf : s'.found a.process i.keyId = s.found a.process i.keyId) :
    a.result s' = a.result s ∧ ∃ t u : Stage, t.surroundings = a.after s ∧
      u.surroundings = a.after s' ∧ Beside a.process i none ⟨a.lot, s⟩ ⟨a.lot, s'⟩ t u := by
  refine a.beside hc ?_ fun _ => .inl rfl
  exact {
    lot := rfl
    keys := rfl
    record := hr
    found := by rw [hf, Option.or_none]
    spare_eq := .inl rfl
    settled := .inl rfl
    left := .refl s
    right := .refl s' }

/-- A call for an identity writes nothing else. -/
theorem SoloCall.spares {a : SoloCall} (hc : a.call.subject? = some i) (s : Surroundings) :
    s.Spares i a.lot.keys (a.after s) := by
  obtain ⟨-, t, _, ht, -, hS⟩ := a.beside_self hc (s := s) rfl rfl
  exact ht ▸ hS.left

theorem SoloCall.secluded {a : SoloCall} (hc : a.call.subject? = some i) : a.Secluded i := by
  refine ⟨fun s => (a.spares hc s).records, ?_⟩
  intro s s' hr hk hh
  have hf : s'.found a.process i.keyId = s.found a.process i.keyId := by
    rw [Surroundings.found, hk, hh, Surroundings.found]
  obtain ⟨hresult, t, u, ht, hu, hS⟩ := a.beside_self hc hr hf
  rw [← ht, ← hu]
  exact ⟨hresult, hS.record⟩

/-! ## Changing places -/

/-- Keysets at hand are stored. -/
def Surroundings.Coherent (s : Surroundings) : Prop :=
  ∀ q k keys, s.atHand q k = some keys → s.store.keys? k = some keys

namespace Surroundings

theorem Coherent.found_eq (h : s.Coherent) : s.found p keyId = s.store.keys? keyId := by
  unfold found
  cases hhand : s.atHand p keyId with
  | none => exact Option.none_or
  | some keys => exact (h p keyId keys hhand).symm

theorem Spares.coherent (h : s.Spares i made s') (hs : s.Coherent) : s'.Coherent := by
  intro q k keys hq
  rcases h.atHand q k keys hq with hhand | hstored
  · exact h.keys?_mono (hs q k keys hhand)
  · exact hstored

/-- Every record has a keyset for its key. -/
def Equipped (s : Surroundings) : Prop :=
  ∀ i, s.store.get? i ≠ none → s.store.keys? i.keyId ≠ none

end Surroundings

theorem World.Sound.coherent {w : World} (h : w.Sound) : w.surroundings.Coherent := by
  intro q k keys hq
  obtain ⟨process, hp, hl⟩ := Option.bind_eq_some_iff.1 hq
  rw [h.agree.keys]
  exact h.agree.atHand process (List.mem_of_getElem? hp) k keys hl

theorem World.Sound.equipped {w : World} (h : w.Sound) : w.surroundings.Equipped := by
  intro i hi
  rw [h.agree.records] at hi
  rw [h.agree.keys]
  exact h.chronicle.keysAfter_ne_none hi

/-- What the call of one identity leaves to that of another: the same, but perhaps a
keyset for a key that both have. -/
theorem Beside.of_spares {l : Lot} (hs : s.Coherent) (he : s.Equipped) (h : s.Spares i made s')
    (hij : j ≠ i) (hmade : i.keyId = j.keyId → l.keys = made) :
    ∃ spare, s'.store.keys? j.keyId = (s.store.keys? j.keyId).or spare ∧
      Beside p j spare ⟨l, s⟩ ⟨l, s'⟩ ⟨l, s⟩ ⟨l, s'⟩ := by
  have hs' : s'.Coherent := h.coherent hs
  have hbeside {spare : Option Keyset}
      (hk : s'.store.keys? j.keyId = (s.store.keys? j.keyId).or spare)
      (heq : spare = none ∨ spare = some l.keys) :
      Beside p j spare ⟨l, s⟩ ⟨l, s'⟩ ⟨l, s⟩ ⟨l, s'⟩ := by
    exact {
      lot := rfl
      keys := rfl
      record := h.records j hij
      found := by simp only [hs.found_eq, hs'.found_eq, hk]
      spare_eq := heq
      settled := .inr (by simpa only [hs.found_eq] using he j)
      left := .refl s
      right := .refl s' }
  -- Either the first call made no keyset for the key, or it made the very one that
  -- the second call would make.
  rcases h.keysets j.keyId with heq | ⟨hk, hnone, hstored⟩
  · exact ⟨none, by rw [heq, Option.or_none], hbeside (by rw [heq, Option.or_none]) (.inl rfl)⟩
  · refine ⟨some made, by rw [hstored, hnone, Option.none_or], hbeside ?_ (.inr ?_)⟩
    · rw [hstored, hnone, Option.none_or]
    · rw [hmade hk.symm]

/-- A call comes to the same after that of another identity, and the keysets of
both are there then. -/
theorem SoloCall.after_spares {b : SoloCall} (hs : s.Coherent) (he : s.Equipped)
    (h : s.Spares i made s') (hij : j ≠ i) (hc : b.call.subject? = some j)
    (hmade : i.keyId = j.keyId → b.lot.keys = made)
    (hround : b.call.isRound = true → s.store.get? j ≠ none) :
    b.result s' = b.result s ∧ (b.after s').store.get? j = (b.after s).store.get? j ∧
      ∀ k, (b.after s').store.keys? k = ((b.after s).store.keys? k).or (s'.store.keys? k) := by
  have hleft : s.Spares j b.lot.keys (b.after s) := b.spares hc s
  have hright : s'.Spares j b.lot.keys (b.after s') := b.spares hc s'
  obtain ⟨spare, hspare, hS⟩ := Beside.of_spares (p := b.process) hs he h hij hmade
  obtain ⟨hresult, t, u, ht, hu, hS'⟩ := b.beside hc hS
    fun hr => .inr (hs.found_eq ▸ he j (hround hr))
  refine ⟨hresult, ht ▸ hu ▸ hS'.record, ?_⟩
  intro k
  by_cases hk : k = j.keyId
  · subst hk
    have hfound : (b.after s').store.keys? j.keyId =
        ((b.after s).store.keys? j.keyId).or spare := by
      rw [← (hright.coherent (h.coherent hs)).found_eq, ← (hleft.coherent hs).found_eq, ← ht, ← hu]
      exact hS'.found
    rw [hfound, hspare, ← Option.or_assoc, hleft.keys?_or]
  · rw [hright.keys?_of_ne hk, hleft.keys?_of_ne hk, h.or_keys?]

/-- Calls for different identities may change places. -/
theorem SoloCall.commute {a b : SoloCall} (hs : s.Coherent) (he : s.Equipped)
    (ha : a.call.subject? = some i) (hb : b.call.subject? = some j) (hij : i ≠ j)
    (hmade : i.keyId = j.keyId → a.lot.keys = b.lot.keys)
    (hround : a.call.isRound = true → s.store.get? i ≠ none)
    (hround' : b.call.isRound = true → s.store.get? j ≠ none) : a.Commute b s := by
  have hspares := a.spares ha s
  have hspares' := b.spares hb s
  obtain ⟨hresult, hrecord, hkeys⟩ :=
    a.after_spares hs he hspares' hij ha (fun hk => hmade hk.symm) hround
  obtain ⟨hresult', hrecord', hkeys'⟩ :=
    b.after_spares hs he hspares hij.symm hb (fun hk => (hmade hk).symm) hround'
  refine ⟨hresult, hresult', ?_, ?_⟩
  · intro m
    by_cases hi : m = i
    · subst hi
      rw [hrecord, (b.spares hb _).records m hij]
    rw [(a.spares ha (b.after s)).records m hi]
    by_cases hj : m = j
    · subst hj
      exact hrecord'
    · rw [(b.spares hb _).records m hj, hspares.records m hi, hspares'.records m hj]
  -- Both orders leave what either call leaves.  Where both left a keyset for a key
  -- that had none, they made the same one.
  · intro k
    rw [hkeys, hkeys']
    rcases hspares.keysets k with heq | ⟨hk, hnone, hstored⟩
    · rw [heq, hspares'.keys?_or, hspares'.or_keys?]
    rcases hspares'.keysets k with heq | ⟨hk', -, hstored'⟩
    · rw [heq, hnone, Option.none_or, Option.or_none]
    · rw [hstored, hstored', hmade (hk.symm.trans hk')]

/-- **Registrations of different identities are independent.**  A call for an
identity leaves the records of all others alone and does not depend on them.  In
whatever is reached from an empty store, two calls for different identities may
change places, even if they make a keyset for the same key, as long as it is the
same keyset.  A round is for an identity that has a record. -/
theorem independent_calls :
    (∀ (a : SoloCall) (i : Identity), a.call.subject? = some i → a.Secluded i) ∧
    ∀ (w : World) (a b : SoloCall) (i j : Identity), w.Reachable →
      a.call.subject? = some i → b.call.subject? = some j → i ≠ j →
      (i.keyId = j.keyId → a.lot.keys = b.lot.keys) →
      (a.call.isRound = true → w.store.get? i ≠ none) →
      (b.call.isRound = true → w.store.get? j ≠ none) → a.Commute b w.surroundings := by
  constructor
  · intro a i ha
    exact a.secluded ha
  · intro w a b i j hw ha hb hij hmade hround hround'
    exact a.commute hw.sound.coherent hw.sound.equipped ha hb hij hmade hround hround'

/-- A registration is asked for. -/
def SoloCall.asksFor (i : Identity) : SoloCall :=
  ⟨0, .sample, .create i "BAP" (.plain "https://host" "domain"), .sample ⟨[1], [2]⟩⟩

/-- Two subscribers register with the same key, which has no keyset yet.  Whoever
comes first, both succeed, and the key has the keyset that was made. -/
theorem independent_sharedKey : ∃ (w : World) (a b : SoloCall) (i j : Identity), w.Reachable ∧
    a.call.subject? = some i ∧ b.call.subject? = some j ∧ i ≠ j ∧ i.keyId = j.keyId ∧
    w.store.keys? i.keyId = none ∧ a.Secluded i ∧ a.Commute b w.surroundings ∧
    (a.result w.surroundings).toOption.isSome = true ∧
    (b.result w.surroundings).toOption.isSome = true ∧
      (b.after (a.after w.surroundings)).store.keys? i.keyId = some ⟨[1], [2]⟩ := by
  have hw : (World.empty.next (.restart .sample)).Reachable :=
    Relation.ReflTransGen.single (World.step_next rfl)
  have hij : sampleIdentity ≠ ⟨"another", "key"⟩ := by decide
  refine ⟨_, .asksFor sampleIdentity, .asksFor ⟨"another", "key"⟩, _, _, hw, rfl, rfl, hij, rfl,
    rfl, independent_calls.1 _ _ rfl,
    independent_calls.2 _ _ _ _ _ hw rfl rfl hij (fun _ => rfl) nofun nofun, ?_, ?_, ?_⟩
  all_goals decide +kernel

end Enrolment
