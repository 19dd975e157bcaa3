import Enrolment.Proofs.Conduct.Revise
import Enrolment.Proofs.Schedule

/-!
# Calls that run alone

A call that runs alone, from its first look at the store to its last, comes to
its verdict on what was stored before.  Of a round only the end counts, once the
registry has said what it has to say.

Nothing is at hand to a call that runs alone, so every keyset comes from the
store.

## Main definitions

* `Operation.Alone` — what an operation ends with if it runs alone in a store.
* `Service.Call.decided` — what a call does, for a round only its end.
* `Store.Becomes` — the store after a call that wrote a record, or none.

## Main statements

* `alone_revise` — a change comes to its verdict.
* `Service.Call.alone_verdict` — a call comes to its verdict.
-/

namespace Enrolment

/-! ## Running alone -/

/-- The surroundings of a call that runs alone: the store, and what is drawn. -/
def Draws.answer (d : Draws) (a : Ask) (s : Surroundings) : Option a.Reply × Surroundings :=
  (some (s.respond d 0 a).1, (s.respond d 0 a).2)

/-- An operation that runs alone in a store ends with the result and leaves the
other store. -/
def Operation.Alone {α : Type} (d : Draws) (x : Operation α) (s : Store)
    (res : Except ServiceError α) (s' : Store) : Prop :=
  x.run.runIn d.answer ⟨s, []⟩ = (some res, ⟨s', []⟩)

theorem Plan.runIn_bind {α β σ : Type} {answer : (a : Ask) → σ → Option a.Reply × σ} (p : Plan α)
    (f : α → Plan β) {a : α} {s s' : σ} (h : p.runIn answer s = (some a, s')) :
    (p >>= f).runIn answer s = (f a).runIn answer s' := by
  induction p generalizing s with
  | done b =>
    cases h
    rfl
  | step ask next ih =>
    rw [Plan.step_bind]
    simp only [Plan.runIn] at h ⊢
    split at h
    · exact ih _ h
    · cases h

namespace Operation.Alone

variable {α β : Type} {d : Draws} {x : Operation α} {f : α → Operation β} {s s₁ s' : Store}
  {res : Except ServiceError β}

theorem pure (a : α) (s : Store) : (pure a : Operation α).Alone d s (.ok a) s := rfl

theorem throw (e : ServiceError) (s : Store) : (throw e : Operation α).Alone d s (.error e) s := rfl

theorem bind {a : α} (h : x.Alone d s (.ok a) s₁) (hf : (f a).Alone d s₁ res s') :
    (x >>= f).Alone d s res s' :=
  (Plan.runIn_bind x.run _ h).trans hf

theorem bind_error {e : ServiceError} (h : x.Alone d s (.error e) s') :
    (x >>= f).Alone d s (.error e) s' :=
  Plan.runIn_bind x.run _ h

/-- An ask is answered by the store and what is drawn. -/
theorem ask_bind {a : Ask} {f : a.Reply → Operation β} {reply : a.Reply}
    (h : Surroundings.respond d 0 a ⟨s, []⟩ = (reply, ⟨s₁, []⟩))
    (hf : (f reply).Alone d s₁ res s') :
    (Operation.ask a >>= f).Alone d s res s' := by
  have hstep : (Operation.ask a >>= f).run = .step a fun reply => (f reply).run := rfl
  rw [Operation.Alone, hstep, Plan.runIn, Draws.answer, h]
  exact hf

theorem clock_bind {f : Moment → Operation β} (hf : (f d.now).Alone d s res s') :
    (Operation.ask .clock >>= f).Alone d s res s' :=
  ask_bind rfl hf

/-- A record that is stored is found. -/
theorem lookup_of_some {i : Identity} {r : Record} {f : Record → Operation β}
    (hr : s.get? i = some r) (hf : (f r).Alone d s res s') :
    (Operation.ask (.lookup i) >>= fun found => Operation.ofStore found >>= f).Alone d s
      res s' := by
  have hlook : Surroundings.respond d 0 (.lookup i) ⟨s, []⟩ = (.ok r, ⟨s, []⟩) := by
    simp [Surroundings.respond, Store.get, hr]
  exact ask_bind hlook hf

/-- A record that is not stored is not found. -/
theorem lookup_of_none {i : Identity} {f : Record → Operation β} (hr : s.get? i = none) :
    (Operation.ask (.lookup i) >>= fun found => Operation.ofStore found >>= f).Alone d s
      (.error (.notFound i)) s := by
  have hlook : Surroundings.respond d 0 (.lookup i) ⟨s, []⟩ = (.error (.notFound i), ⟨s, []⟩) := by
    simp [Surroundings.respond, Store.get, hr]
  exact ask_bind hlook (throw _ s)

end Operation.Alone

/-! ## Keys -/

variable {d : Draws} {s : Store} {keyId : String} {keys : Keyset}

theorem Keys.alone_keep : (keep keyId keys).Alone d s (.ok keys) s :=
  .ask_bind rfl (.pure keys s)

/-- The keyset that is found is the stored one. -/
theorem Keys.alone_find? : (find? keyId).Alone d s (.ok (s.keys? keyId)) s := by
  have hatHand : Surroundings.respond d 0 (.keysAtHand keyId) ⟨s, []⟩ = (none, ⟨s, []⟩) := rfl
  refine .ask_bind hatHand (.ask_bind rfl ?_)
  rw [Operation.ofStore_ok, pure_bind]
  cases hk : s.keys? keyId with
  | none => exact .pure none s
  | some keys => exact .bind alone_keep (.pure (some keys) s)

theorem Keys.alone_find (hk : s.keys? keyId = some keys) : (find keyId).Alone d s (.ok keys) s := by
  refine .bind alone_find? ?_
  rw [hk]
  exact .pure keys s

theorem Keys.alone_publicKeys (hk : s.keys? keyId = some keys) :
    (publicKeys keyId).Alone d s (.ok keys.publicKeys) s := by
  rw [publicKeys, map_eq_pure_bind]
  exact .bind (alone_find hk) (.pure _ s)

/-- A key that has a keyset keeps it, and another one is given what is drawn. -/
theorem Keys.alone_ensure (d : Draws) (s : Store) (keyId : String) :
    ∃ publicKeys s', (ensure keyId).Alone d s (.ok publicKeys) s' ∧ (∀ i, s'.get? i = s.get? i) ∧
    ∀ k, s'.keys? k = (s.keys? k).or (if k = keyId then some d.keys else none) := by
  cases hk : s.keys? keyId with
  | some keys =>
    refine ⟨keys.publicKeys, s, .bind alone_find? ?_, fun _ => rfl, ?_⟩
    · rw [hk]
      exact .pure keys.publicKeys s
    · intro k
      by_cases hkk : k = keyId
      · subst hkk
        simp [hk]
      · simp [hkk]
  | none =>
    refine ⟨((s.offerKeys keyId d.keys).1).publicKeys, (s.offerKeys keyId d.keys).2,
      .bind alone_find? ?_, fun _ => Store.get?_offerKeys, fun _ => Store.keys?_offerKeys⟩
    rw [hk]
    refine .ask_bind rfl (.ask_bind rfl ?_)
    rw [Operation.ofStore_ok, pure_bind]
    exact .bind alone_keep (.pure _ _)

/-- What was sealed for a key that has a keyset is opened with that keyset. -/
theorem Keys.alone_openFrom {blob peer : String} (hk : s.keys? keyId = some keys) :
    (openFrom keyId blob peer).Alone d s (keys.openFrom blob peer) s := by
  refine .bind (alone_find hk) ?_
  cases keys.openFrom blob peer with
  | ok text => exact .pure text s
  | error e => exact .throw e s

/-- A challenge is answered with the stored keyset. -/
theorem Challenge.alone_resolve {registryKey challenge : String} (hk : s.keys? keyId = some keys) :
    (resolve registryKey challenge keyId).Alone d s (answerWith keys registryKey challenge) s := by
  unfold resolve answerWith
  split
  · exact .throw _ s
  · have hopen : Operation.Alone d (ExceptT.adapt asUnanswered
        (Keys.openFrom keyId challenge registryKey)) s
        ((keys.openFrom challenge registryKey).mapError asUnanswered) s :=
      Plan.runIn_bind (Keys.openFrom keyId challenge registryKey).run _ (Keys.alone_openFrom hk)
    cases ho : (keys.openFrom challenge registryKey).mapError asUnanswered with
    | error e => exact .bind_error (ho ▸ hopen)
    | ok answer =>
      refine .bind (ho ▸ hopen) ?_
      by_cases hempty : answer = ""
      · simp only [hempty, if_true]
        exact .throw _ s
      · simp only [hempty, if_false]
        exact .pure answer s

/-! ## Records -/

/-- The store after a call about an identity that wrote the record, or none, and
may have given its key the keyset that was drawn. -/
structure Store.Becomes (s : Store) (i : Identity) (drawn : Keyset) (wrote : Option Record)
    (s' : Store) : Prop where
  /-- The record that was written is there, and the others are what they were. -/
  written : ∀ new, wrote = some new →
    ∀ j, s'.get? j = if j = new.identity then some new else s.get? j
  /-- If none was written, the records are what they were. -/
  kept : wrote = none → ∀ j, s'.get? j = s.get? j
  /-- A new record has a keyset for its key. -/
  present : wrote ≠ none → s.get? i = none → s'.keys? i.keyId ≠ none
  /-- Keysets are what they were, but for one that was drawn for a new record. -/
  keys : ∀ k, s'.keys? k = s.keys? k ∨
    (k = i.keyId ∧ wrote ≠ none ∧ s.keys? k = none ∧ s'.keys? k = some drawn)

theorem Store.Becomes.refl {i : Identity} {drawn : Keyset} : s.Becomes i drawn none s :=
  ⟨by simp, fun _ _ => rfl, by simp, fun _ => .inl rfl⟩

/-- A change that runs alone comes to its verdict. -/
theorem alone_revise (s : Store) (i : Identity) (change : Change)
    (hid : ∀ current next, change d.now current = .ok (some next) →
      next.identity = current.identity) :
    ∃ s', (revise i change).Alone d s (change.verdict i d.now (s.get? i)).result s' ∧
      s.Becomes i d.keys (change.verdict i d.now (s.get? i)).written s' := by
  unfold Change.verdict
  cases hr : s.get? i with
  | none =>
    exact ⟨s, .lookup_of_none hr, .refl⟩
  | some current =>
    rw [Verdict.given_some]
    cases hch : change d.now current with
    | error e =>
      refine ⟨s, .lookup_of_some hr (.clock_bind ?_), .refl⟩
      rw [hch]
      exact .throw e s
    | ok decided =>
      cases decided with
      | none =>
        refine ⟨s, .lookup_of_some hr (.clock_bind ?_), .refl⟩
        rw [hch]
        exact .pure current s
      | some next =>
        have hni : next.identity = i :=
          (hid current next hch).trans (Store.identity_of_get? hr)
        subst hni
        have hput : Surroundings.respond d 0 (.replace next current.version) ⟨s, []⟩ =
            (.ok { next with version := current.version + 1 },
              ⟨(s.put next current.version).2, []⟩) := by
          simp [Surroundings.respond, Store.put_of_some hr]
        refine ⟨(s.put next current.version).2, .lookup_of_some hr (.clock_bind ?_),
          ?_, by simp [Verdict.after, Verdict.writes], by simp [hr],
          fun k => .inl Store.keys?_put⟩
        · rw [hch]
          exact .ask_bind hput (.pure _ _)
        · intro new hnew j
          cases hnew
          exact Store.get?_put hr

/-! ## Calls -/

/-- What a call does, for a round that the registry answered only its end. -/
def Service.Call.decided (service : Service) (outcome : Option (Except GiveUp Ack)) :
    (c : Service.Call) → Operation c.Result
  | .register r kind => match outcome with
    | some said => Service.conclude r said
    | none => service.register r kind
  | c => c.operation service

namespace Service

variable {i : Identity}

/-- A new registration is made once its key has a keyset. -/
private theorem alone_create_new {role : String} {payload : Payload} {fresh : Record}
    {publicKeys : PublicKeys} {s₁ : Store} (hm : Record.make i role payload d.now = .ok fresh)
    (hensure : (Keys.ensure i.keyId).Alone d s (.ok publicKeys) s₁)
    (hnone : s₁.get? fresh.identity = none) :
    (create i role payload).Alone d s (.ok { fresh with version := 1 }) (s₁.create fresh).2 := by
  have hinsert : Surroundings.respond d 0 (.insert fresh) ⟨s₁, []⟩ =
      (.ok { fresh with version := 1 }, ⟨(s₁.create fresh).2, []⟩) := by
    simp [Surroundings.respond, Store.create_of_none hnone]
  refine .clock_bind ?_
  rw [hm, Operation.ofExcept_ok, pure_bind]
  exact .bind hensure (.ask_bind hinsert (.ask_bind rfl (.pure _ _)))

/-- A registration that is there is compared. -/
private theorem alone_create_existing {role : String} {payload : Payload} {fresh existing : Record}
    {publicKeys : PublicKeys} {s₁ : Store} (hm : Record.make i role payload d.now = .ok fresh)
    (hensure : (Keys.ensure i.keyId).Alone d s (.ok publicKeys) s₁)
    (hsome : s₁.get? i = some existing) :
    (create i role payload).Alone d s
      (if existing.sameRegistration role payload then .ok existing else .error (.conflict i))
      s₁ := by
  have hi : fresh.identity = i := (Record.make_eq_ok_iff.1 hm).2 ▸ rfl
  have hput : s₁.create fresh = (.error (.alreadyExists i), s₁) := by
    rw [Store.create_of_some (hi ▸ hsome), hi]
  have hinsert : Surroundings.respond d 0 (.insert fresh) ⟨s₁, []⟩ =
      (.error (.alreadyExists i), ⟨s₁, []⟩) := by
    simp [Surroundings.respond, hput]
  refine .clock_bind ?_
  rw [hm, Operation.ofExcept_ok, pure_bind]
  refine .bind hensure (.ask_bind hinsert (.lookup_of_some hsome ?_))
  by_cases hsame : existing.sameRegistration role payload = true
  · simp only [hsame, if_true]
    exact .pure existing s₁
  · simp only [hsame]
    exact .throw _ s₁

/-- Making a registration comes to its verdict. -/
theorem alone_create {role : String} {payload : Payload}
    (hk : s.get? i ≠ none → s.keys? i.keyId ≠ none) : ∃ s',
    (create i role payload).Alone d s (Verdict.create i role payload d.now (s.get? i)).result s' ∧
      s.Becomes i d.keys (Verdict.create i role payload d.now (s.get? i)).written s' := by
  unfold Verdict.create
  cases hm : Record.make i role payload d.now with
  | error e =>
    refine ⟨s, .clock_bind ?_, .refl⟩
    rw [hm]
    exact .throw _ s
  | ok fresh =>
    have hi : fresh.identity = i := (Record.make_eq_ok_iff.1 hm).2 ▸ rfl
    obtain ⟨publicKeys, s₁, hensure, hrecords, hkeys⟩ := Keys.alone_ensure d s i.keyId
    rw [Verdict.after_ok]
    cases hr : s.get? i with
    | none =>
      have hnone : s₁.get? fresh.identity = none := by rw [hi, hrecords, hr]
      refine ⟨_, alone_create_new hm hensure hnone, ?_, by simp [Verdict.writes], ?_, ?_⟩
      · intro new hnew j
        cases hnew
        rw [Store.get?_create hnone, hrecords]
      · intro _ _
        rw [Store.keys?_create, hkeys]
        cases s.keys? i.keyId <;> simp
      · intro k
        rw [Store.keys?_create, hkeys]
        by_cases hkk : k = i.keyId
        · subst hkk
          cases hks : s.keys? i.keyId with
          | none => exact .inr ⟨rfl, by simp [Verdict.writes], rfl, by simp⟩
          | some keys => exact .inl rfl
        · exact .inl (by simp [hkk])
    | some existing =>
      have hsome : s₁.get? i = some existing := by rw [hrecords, hr]
      have hbecomes : s.Becomes i d.keys none s₁ := by
        refine ⟨by simp, fun _ => hrecords, by simp, fun k => .inl ?_⟩
        obtain ⟨keys, hkeys'⟩ := Option.ne_none_iff_exists'.1 (hk (by simp [hr]))
        rw [hkeys]
        by_cases hkk : k = i.keyId
        · subst hkk
          simp [hkeys']
        · simp [hkk]
      have halone := alone_create_existing hm hensure hsome
      by_cases hsame : existing.sameRegistration role payload = true
      · simp only [hsame, if_true] at halone ⊢
        exact ⟨s₁, halone, hbecomes⟩
      · simp only [hsame] at halone ⊢
        exact ⟨s₁, halone, hbecomes⟩

/-- Replacing a registration comes to its verdict. -/
theorem alone_update {role : String} {payload : Payload}
    (hk : s.get? i ≠ none → s.keys? i.keyId ≠ none) : ∃ s',
    (update i role payload).Alone d s (Verdict.update i role payload d.now (s.get? i)).result s' ∧
      s.Becomes i d.keys (Verdict.update i role payload d.now (s.get? i)).written s' := by
  unfold Verdict.update update
  cases checkRole role with
  | error e => exact ⟨s, .throw _ s, .refl⟩
  | ok _ =>
  cases payload.check with
  | error e => exact ⟨s, .throw _ s, .refl⟩
  | ok _ =>
  simp only [Operation.ofExcept_ok, pure_bind, Verdict.after_ok]
  cases hr : s.get? i with
  | none => exact ⟨s, .lookup_of_none hr, .refl⟩
  | some current =>
    obtain ⟨keys, hkeys⟩ := Option.ne_none_iff_exists'.1 (hk (by simp [hr]))
    obtain ⟨s', hrevise, hbecomes⟩ := alone_revise s i (makeAgain role payload)
      fun current next (hch : makeAgain role payload d.now current = .ok (some next)) => by
        obtain ⟨-, rfl⟩ := makeAgain_eq_some_iff.1 hch
        rfl
    rw [hr] at hrevise hbecomes
    refine ⟨s', .lookup_of_some hr (.bind (Keys.alone_publicKeys hkeys) ?_), hbecomes⟩
    cases hres : (Change.verdict i (makeAgain role payload) d.now (some current)).result with
    | ok stored => exact .bind (hres ▸ hrevise) (.ask_bind rfl (.pure stored s'))
    | error e => exact .bind_error (hres ▸ hrevise)

/-- Answering a challenge comes to its verdict. -/
theorem alone_answerChallenge {service : Service} {subscriberId keyId challenge : String}
    (hk : s.get? ⟨subscriberId, keyId⟩ ≠ none → s.keys? keyId ≠ none) : ∃ s',
    (service.answerChallenge subscriberId (some keyId) challenge).Alone d s
        (Verdict.answerChallenge service ⟨subscriberId, keyId⟩ challenge d.now
          (s.get? ⟨subscriberId, keyId⟩) (s.keys? keyId)).result s' ∧
      s.Becomes ⟨subscriberId, keyId⟩ d.keys
        (Verdict.answerChallenge service ⟨subscriberId, keyId⟩ challenge d.now
          (s.get? ⟨subscriberId, keyId⟩) (s.keys? keyId)).written s' := by
  cases hr : s.get? ⟨subscriberId, keyId⟩ with
  | none =>
    exact ⟨s, .lookup_of_none hr, .refl⟩
  | some current =>
    obtain ⟨keys, hkeys⟩ := Option.ne_none_iff_exists'.1 (hk (by simp [hr]))
    have hid : current.identity = ⟨subscriberId, keyId⟩ := Store.identity_of_get? hr
    rw [hkeys]
    unfold Verdict.answerChallenge
    rw [Verdict.given_some]
    cases hp : permit current.status .challenged with
    | error e =>
      refine ⟨s, .lookup_of_some hr ?_, .refl⟩
      simp only [hp]
      exact .throw e s
    | ok _ =>
    rw [Verdict.after_ok, Verdict.given_some]
    have hresolve : (Challenge.resolve service.registryKey challenge keyId).Alone d s
        (Challenge.answerWith keys service.registryKey challenge) s :=
      Challenge.alone_resolve hkeys
    cases ha : Challenge.answerWith keys service.registryKey challenge with
    | error e =>
      refine ⟨s, .lookup_of_some hr ?_, .refl⟩
      simp only [hp, Operation.ofExcept_ok, pure_bind, hid]
      exact .bind_error (ha ▸ hresolve)
    | ok answer =>
    obtain ⟨s', hrevise, hbecomes⟩ := alone_revise s ⟨subscriberId, keyId⟩ (keepAnswer answer)
      fun current next (hch : keepAnswer answer d.now current = .ok (some next)) => by
        obtain ⟨-, -, rfl⟩ := keepAnswer_eq_some_iff.1 hch
        rfl
    rw [hr] at hrevise hbecomes
    refine ⟨s', .lookup_of_some hr ?_, hbecomes⟩
    simp only [hp, Operation.ofExcept_ok, pure_bind, hid, Verdict.after_ok]
    refine .bind (ha ▸ hresolve) ?_
    cases hres : (Change.verdict ⟨subscriberId, keyId⟩ (keepAnswer answer) d.now
      (some current)).result with
    | ok stored => exact .bind (hres ▸ hrevise) (.pure answer s')
    | error e => exact .bind_error (hres ▸ hrevise)

/-- Following a status comes to its verdict. -/
theorem alone_pushStatus (i : Identity) (status : String) : ∃ s',
    (pushStatus i status).Alone d s (Verdict.pushStatus i status d.now (s.get? i)).result s' ∧
      s.Becomes i d.keys (Verdict.pushStatus i status d.now (s.get? i)).written s' := by
  unfold Verdict.pushStatus pushStatus
  cases Status.read? status with
  | none => exact ⟨s, .throw _ s, .refl⟩
  | some target =>
    exact alone_revise s _ _ fun current next hch => by
      obtain ⟨-, rfl⟩ := follow_eq_some_iff.1 hch
      rfl

/-- Looking at a registration comes to its verdict. -/
theorem alone_get : (get i).Alone d s
    (Verdict.given (.notFound i) (s.get? i) .keeps).result s := by
  cases hr : s.get? i with
  | none =>
    have hlook : Surroundings.respond d 0 (.lookup i) ⟨s, []⟩ =
        (.error (.notFound i), ⟨s, []⟩) := by
      simp [Surroundings.respond, Store.get, hr]
    exact .ask_bind hlook (.throw _ s)
  | some current =>
    have hlook : Surroundings.respond d 0 (.lookup i) ⟨s, []⟩ = (.ok current, ⟨s, []⟩) := by
      simp [Surroundings.respond, Store.get, hr]
    exact .ask_bind hlook (.pure current s)

/-- The end of a round comes to its verdict. -/
theorem alone_conclude {r : Record} {outcome : Except GiveUp Ack} : ∃ s',
    (conclude r outcome).Alone d s
        (Verdict.conclude r outcome d.now (s.get? r.identity)).result s' ∧
      s.Becomes r.identity d.keys
        (Verdict.conclude r outcome d.now (s.get? r.identity)).written s' := by
  unfold Verdict.conclude
  rcases outcome with (⟨attempts, e⟩ | e) | ack
  · exact ⟨s, .throw _ s, .refl⟩
  · exact alone_revise s _ _ fun current next hch => by
      obtain ⟨-, hch⟩ := inRound_eq_some_iff.1 hch
      obtain ⟨-, rfl⟩ := follow_eq_some_iff.1 hch
      rfl
  · exact alone_revise s _ _ fun current next hch => by
      obtain ⟨-, hch⟩ := inRound_eq_some_iff.1 hch
      obtain ⟨-, rfl⟩ := acknowledge_eq_some_iff.1 hch
      rfl

/-- A call that runs alone comes to its verdict on what was stored. -/
theorem Call.alone_verdict {c : Service.Call} {service : Service}
    {outcome : Option (Except GiveUp Ack)} {v : Verdict c.Result} (hi : c.subject? = some i)
    (hv : c.verdict service outcome d.now (s.get? i) (s.keys? i.keyId) = some v)
    (hk : s.get? i ≠ none → s.keys? i.keyId ≠ none) :
    ∃ s', (c.decided service outcome).Alone d s v.result s' ∧ s.Becomes i d.keys v.written s' := by
  cases c with
  | create i role payload =>
    cases hi
    cases hv
    exact alone_create hk
  | update i role payload =>
    cases hi
    cases hv
    exact alone_update hk
  | answerChallenge subscriberId keyId challenge =>
    cases keyId with
    | none => cases hv
    | some keyId =>
      cases hi
      cases hv
      exact alone_answerChallenge hk
  | pushStatus i status =>
    cases hi
    simp only [Call.verdict, Option.some.injEq] at hv
    subst hv
    exact alone_pushStatus i status
  | get i =>
    cases hi
    cases hv
    refine ⟨s, alone_get, ?_⟩
    cases s.get? i <;> exact .refl
  | readiness | resume => cases hv
  | register r kind =>
    cases hi
    cases outcome with
    | none => cases hv
    | some said =>
      cases hv
      exact alone_conclude

end Service

end Enrolment
