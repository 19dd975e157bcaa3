import Enrolment.Proofs.Attempts
import Enrolment.Proofs.Conduct.Requests
import Enrolment.Proofs.Undisturbed

/-!
# A round from its start to its end

A round that runs by itself calls the registry with one and the same request
until an answer is decisive or no attempts are left, and records what the last
answer tells.  What it does is a function of what it draws: of the answers of the
registry, and of the readings of the clock if its calls are signed.

## Main definitions

* `Deed`, `Plan.deeds` — the calls and the pauses of a plan that runs by itself.
* `Backoff.Makes` — calls with numbers, each but the last with a pause after it.

## Main statements

* `Service.solo_register` — what a round does and comes to.
-/

namespace Enrolment

/-! ## Calls and pauses -/

/-- What a round does before it is concluded. -/
inductive Deed
  /-- It calls the registry. -/
  | call (request : Request) (authorization : Option String)
  /-- It waits. -/
  | pause (millis : Nat)

/-- The ask is such a deed. -/
def Ask.deed? : Ask → Option Deed
  | call request authorization => some (.call request authorization)
  | pause millis => some (.pause millis)
  | _ => none

variable {α β : Type} {p : Nat} {t t₁ : Stage} {keys : Keyset}

/-- What a process that runs by itself is answered. -/
def Stage.answer (p : Nat) (ask : Ask) (t : Stage) : Option ask.Reply × Stage :=
  (some (t.respond p ask).1, (t.respond p ask).2)

/-- A process that runs by itself is not disturbed. -/
theorem Stage.undisturbed (p : Nat) : Undisturbed (Stage.answer p) Stage.store where
  lookup _ _ := rfl
  ofSubscriber _ _ := rfl
  replace _ _ _ := ⟨_, rfl, rfl⟩
  clock _ := ⟨_, _, rfl, rfl⟩

theorem Plan.runIn_answer (x : Plan α) :
    x.runIn (Stage.answer p) t = (some (x.solo p t).1, (x.solo p t).2) := by
  induction x generalizing t with
  | done a => rfl
  | step ask next ih => exact ih _

theorem Operation.solo_of_runIn {x : Operation α} {res : Except ServiceError α}
    (h : x.runIn (Stage.answer p) t = (some res, t₁)) : x.solo p t = (res, t₁) := by
  have hrun : (some (x.solo p t).1, (x.solo p t).2) = (some res, t₁) :=
    (Plan.runIn_answer x.run).symm.trans h
  obtain ⟨hres, hstage⟩ := Prod.mk.inj hrun
  exact Prod.ext (Option.some.inj hres) hstage

/-- The record of an identity was replaced, and no other record. -/
def Stage.Replaces (t : Stage) (i : Identity) (new : Record) (t₁ : Stage) : Prop :=
  ∀ j, t₁.store.get? j = if j = i then some new else t.store.get? j

/-- The deeds of a plan that runs by itself, in their order. -/
def Plan.deeds (p : Nat) : Plan α → Stage → List Deed
  | done _, _ => []
  | step ask next, t => ask.deed?.toList ++ (next (t.respond p ask).1).deeds p (t.respond p ask).2

theorem Plan.deeds_bind (x : Plan α) (f : α → Plan β) : (x >>= f).deeds p t =
    x.deeds p t ++ (f (x.solo p t).1).deeds p (x.solo p t).2 := by
  induction x generalizing t with
  | done a => rfl
  | step ask next ih =>
    rw [step_bind, deeds, deeds, ih, List.append_assoc]
    rfl

/-- A plan that asks for nothing of the kind does nothing of the kind. -/
theorem Plan.Asks.deeds_eq_nil {P : Ask → Prop} {Q : α → Prop} {x : Plan α} (h : x.Asks P Q)
    (hP : ∀ ask, P ask → ask.deed? = none) : x.deeds p t = [] := by
  induction x generalizing t with
  | done a => rfl
  | step ask next ih =>
    rw [deeds, hP ask h.1, ih _ (h.2 _)]
    rfl

theorem Operation.OfKeys.deeds_eq_nil {x : Operation α} (h : x.OfKeys) : x.run.deeds p t = [] := by
  refine (Operation.Asks.run h).deeds_eq_nil fun ask hask => ?_
  cases ask with
  | call | pause => cases hask
  | _ => rfl

/-- An operation, and then another one. -/
theorem Operation.deeds_bind_ok {x : Operation α} {f : α → Operation β} {a : α}
    (h : x.solo p t = (.ok a, t₁)) :
    (x >>= f).run.deeds p t = x.run.deeds p t ++ (f a).run.deeds p t₁ := by
  have hrun : x.run.solo p t = (.ok a, t₁) := h
  refine (Plan.deeds_bind x.run (ExceptT.bindCont f)).trans ?_
  rw [hrun]
  rfl

/-- A plan that cannot fail, and then an operation. -/
theorem Operation.solo_lift_bind {x : Plan α} {f : α → Operation β} {a : α}
    (h : x.solo p t = (a, t₁)) :
    ((liftM x : Operation α) >>= f).solo p t = (f a).solo p t₁ := by
  refine solo_bind_ok ((Plan.solo_map x Except.ok).trans ?_)
  rw [h]

theorem Operation.deeds_lift_bind {x : Plan α} {f : α → Operation β} {a : α}
    (h : x.solo p t = (a, t₁)) : ((liftM x : Operation α) >>= f).run.deeds p t =
      x.deeds p t ++ (f a).run.deeds p t₁ := by
  have hlift : (liftM x : Operation α).solo p t = (.ok a, t₁) :=
    (Plan.solo_map x Except.ok).trans (by rw [h])
  have hdeeds : (liftM x : Operation α).run.deeds p t = x.deeds p t := by
    refine (Plan.deeds_bind x (pure ∘ Except.ok)).trans ?_
    exact List.append_nil _
  rw [deeds_bind_ok hlift, hdeeds]

/-- Calls with numbers from one attempt to the last, each but the last with the
pause of its number after it. -/
inductive Backoff.Makes (b : Backoff) (call : (attempt : Nat) → Deed) :
    (attempt last : Nat) → List Deed → Prop
  /-- No other attempt is made. -/
  | once (last : Nat) : Makes b call last last [call last]
  /-- Another attempt is made. -/
  | again {attempt last drawn : Nat} {deeds : List Deed} (hd : drawn ≤ b.maxJitter attempt)
      (h : Makes b call (attempt + 1) last deeds) :
      Makes b call attempt last (call attempt :: .pause (b.delay attempt drawn) :: deeds)

/-! ## Attempts of a round -/

/-- A header is made with the keyset of the key. -/
theorem Keys.solo_authorize {identity : Identity} {body : Bytes} {now : Int}
    (hk : t.surroundings.found p identity.keyId = some keys) :
    (authorize identity body now).solo p t =
      (.ok (Authorization.make identity now (keys.sign (Authorization.message now body))).text,
        t.warm p identity.keyId) := by
  have hfind : (find identity.keyId).solo p t = (.ok keys, t.warm p identity.keyId) :=
    solo_find.trans (by rw [hk]; rfl)
  have hsign : (sign identity.keyId (Authorization.message now body)).solo p t =
      (.ok (keys.sign (Authorization.message now body)), t.warm p identity.keyId) :=
    Operation.solo_map_ok hfind
  rw [authorize, Operation.solo_bind_ok hsign]
  rfl

namespace Service

variable {request : Request} {kind : RoundKind}

/-- What is left alone from one attempt to the next: the keyset and the store, and
what the attempts to come hear and are signed with. -/
structure Attempted (p : Nat) (request : Request) (kind : RoundKind) (keys : Keyset)
    (t t₁ : Stage) (heard : Nat → Except RegistryError Ack) : Prop where
  /-- The store is what it was. -/
  store : t₁.store = t.store
  /-- The keyset is still found. -/
  found : t₁.surroundings.found p request.identity.keyId = some keys
  /-- These answers are heard next. -/
  heard : t₁.lot.heard = heard
  /-- The next calls are signed with the next readings of the clock. -/
  signed (n : Nat) : kind.header request keys (t₁.lot.readings n).unixSeconds =
    kind.header request keys (t.lot.readings (n + 1)).unixSeconds

variable (kind) in
/-- One call. -/
theorem solo_callRegistry
    (hk : t.surroundings.found p request.identity.keyId = some keys) : ∃ t₁,
    (callRegistry request kind).solo p t = (t.lot.heard 0, t₁) ∧
      (callRegistry request kind).deeds p t =
        [.call request (kind.header request keys (t.lot.readings 0).unixSeconds)] ∧
      Attempted p request kind keys t t₁ fun n => t.lot.heard (n + 1) := by
  cases kind with
  | initial => exact ⟨_, rfl, rfl, rfl, hk, rfl, fun _ => rfl⟩
  | update =>
    let clocked : Stage := ⟨t.lot.after .clock, t.surroundings⟩
    let header : Option String := RoundKind.header .update request keys
      (t.lot.readings 0).unixSeconds
    have hauthorize : (Keys.authorize request.identity request.body
        (t.lot.readings 0).unixSeconds).run.solo p clocked = _ :=
      Keys.solo_authorize (t := clocked) hk
    have hquiet : (Keys.authorize request.identity request.body
        (t.lot.readings 0).unixSeconds).run.deeds p clocked = [] :=
      (Keys.ofKeys_authorize _ _ _).deeds_eq_nil
    have hsolo : (callRegistry request .update).solo p t =
        (Plan.ask (.call request header)).solo p (clocked.warm p request.identity.keyId) := by
      refine (Plan.solo_bind (t := clocked) (Keys.authorize request.identity request.body
        (t.lot.readings 0).unixSeconds).run _).trans ?_
      rw [hauthorize]
      rfl
    have hdeeds : (callRegistry request .update).deeds p t =
        (Plan.ask (.call request header)).deeds p (clocked.warm p request.identity.keyId) := by
      refine (Plan.deeds_bind (t := clocked) (Keys.authorize request.identity request.body
        (t.lot.readings 0).unixSeconds).run _).trans ?_
      rw [hquiet, hauthorize]
      rfl
    rw [hsolo, hdeeds]
    exact ⟨_, rfl, rfl, Surroundings.store_warm, Surroundings.found_warm.trans hk, rfl,
      fun _ => rfl⟩

/-- One pause. -/
theorem solo_pauseAfter (b : Backoff) (attempt : Nat) : ∃ drawn t₁, drawn ≤ b.maxJitter attempt ∧
    (pauseAfter b attempt).solo p t = ((), t₁) ∧
    (pauseAfter b attempt).deeds p t = [.pause (b.delay attempt drawn)] ∧
    t₁.surroundings = t.surroundings ∧ t₁.lot.heard = t.lot.heard ∧
    t₁.lot.readings = t.lot.readings := by
  unfold pauseAfter
  by_cases hmost : b.maxJitter attempt = 0
  · simp only [hmost, if_true]
    exact ⟨0, _, Nat.le_refl 0, rfl, rfl, rfl, rfl, rfl⟩
  · simp only [hmost, if_false]
    exact ⟨min (t.lot.numbers 0) (b.maxJitter attempt), _, Nat.min_le_right _ _, rfl, rfl, rfl, rfl,
      rfl⟩

/-- The attempts of a round, from one of them on. -/
theorem solo_runFrom {b : Backoff} (kind : RoundKind) (call : (attempt : Nat) → Deed)
    (attempt left : Nat)
    (hk : t.surroundings.found p request.identity.keyId = some keys)
    (hcall : ∀ n, call (attempt + n) =
      .call request (kind.header request keys (t.lot.readings n).unixSeconds)) :
    ∃ t₁, (Backoff.runFrom (pauseAfter b) (fun _ => callRegistry request kind) attempt left).solo p
        t = (Backoff.said (attempt + Backoff.retries t.lot.heard left)
          (t.lot.heard (Backoff.retries t.lot.heard left)), t₁) ∧
      b.Makes call attempt (attempt + Backoff.retries t.lot.heard left)
        ((Backoff.runFrom (pauseAfter b) (fun _ => callRegistry request kind) attempt left).deeds p
          t) ∧
      t₁.store = t.store := by
  -- An attempt uses up one answer and one reading, so those to come are counted from the next.
  induction left generalizing attempt t with
  | zero =>
    obtain ⟨t₁, hsolo, hdeeds, hstore, -, -, -⟩ := solo_callRegistry kind hk
    rw [Backoff.runFrom_zero, Plan.solo_bind, Plan.deeds_bind, hsolo, hdeeds, ← hcall 0]
    exact ⟨t₁, rfl, .once attempt, hstore⟩
  | succ left ih =>
    obtain ⟨t₁, hsolo, hdeeds, hstore, hfound, hheard, hsigned⟩ :=
      solo_callRegistry kind hk
    rw [Backoff.runFrom_succ, Plan.solo_bind, Plan.deeds_bind, hsolo, hdeeds, ← hcall 0]
    cases hd : Backoff.decisive (t.lot.heard 0) with
    | true =>
      rw [Backoff.retries_of_decisive hd]
      exact ⟨t₁, rfl, .once attempt, hstore⟩
    | false =>
      obtain ⟨drawn, t₂, hdrawn, hpause, hpaused, hsame, hheard', hreadings⟩ :=
        solo_pauseAfter (p := p) (t := t₁) b attempt
      have hcall' (n : Nat) : call (attempt + 1 + n) =
          .call request (kind.header request keys (t₂.lot.readings n).unixSeconds) := by
        rw [hreadings, hsigned, ← hcall (n + 1), Nat.add_assoc, Nat.add_comm 1]
      obtain ⟨t₃, hrest, hmakes, hstore'⟩ := ih (attempt + 1) (hsame ▸ hfound) hcall'
      rw [hheard', hheard, Nat.add_right_comm] at hrest hmakes
      rw [Backoff.retries_succ hd]
      simp only [Bool.false_eq_true, if_false, Plan.solo_bind, Plan.deeds_bind, hpause, hpaused]
      refine ⟨t₃, hrest, .again hdrawn hmakes, ?_⟩
      · rw [hstore', Stage.store, hsame]
        exact hstore

variable {s : Service} {r old : Record}

/-- The end of a round neither calls nor pauses. -/
theorem deeds_conclude {outcome : Except GiveUp Ack} : (conclude r outcome).run.deeds p t = [] := by
  have hrevise (i : Identity) (change : Change) :
      (revise i change).Asks (·.deed? = none) fun _ => True :=
    asks_reviseWithin (P := (·.deed? = none)) i change rfl rfl (fun _ _ => rfl) maxRounds
  rcases outcome with (_ | _) | _
  · rfl
  · exact (Operation.Asks.run (hrevise _ _)).deeds_eq_nil fun _ h => h
  · exact (Operation.Asks.run (hrevise _ _)).deeds_eq_nil fun _ h => h

/-- The call of an attempt of a round that runs by itself. -/
def callOf (t : Stage) (r : Record) (kind : RoundKind) (keys : Keyset) (attempt : Nat) : Deed :=
  let request := Request.ofRecord r keys.publicKeys (t.lot.names 0)
  .call request (kind.header request keys (t.lot.readings (attempt - 1)).unixSeconds)

/-- What a round does before it is concluded. -/
theorem solo_attempts (s : Service) (kind : RoundKind)
    (hk : t.surroundings.found p r.identity.keyId = some keys) : ∃ t₁, t₁.store = t.store ∧
      (s.register r kind).solo p t = (conclude r (Backoff.said (s.retry.last t.lot.heard)
        (t.lot.heard (s.retry.last t.lot.heard - 1)))).solo p t₁ ∧
      s.retry.Makes (callOf t r kind keys) 1 (s.retry.last t.lot.heard)
        ((s.register r kind).run.deeds p t) := by
  let request := Request.ofRecord r keys.publicKeys (t.lot.names 0)
  let named : Stage := ⟨t.lot.after .freshName, t.surroundings.warm p r.identity.keyId⟩
  have hpublic : (Keys.publicKeys r.identity.keyId).solo p t =
      (.ok keys.publicKeys, t.warm p r.identity.keyId) :=
    Keys.solo_publicKeys.trans (by rw [hk]; rfl)
  have hfound : named.surroundings.found p request.identity.keyId = some keys :=
    Surroundings.found_warm.trans hk
  have hcall (n : Nat) : callOf t r kind keys (1 + n) =
      .call request (kind.header request keys (named.lot.readings n).unixSeconds) := by
    rw [callOf, Nat.add_sub_cancel_left]
    rfl
  obtain ⟨t₁, hattempts, hmakes, hstore⟩ := solo_runFrom (b := s.retry) kind
    (callOf t r kind keys) 1 (s.retry.maxAttempts - 1) hfound hcall
  rw [Nat.add_comm 1] at hattempts hmakes
  refine ⟨t₁, hstore.trans Surroundings.store_warm, ?_, ?_⟩
  · rw [register, Operation.solo_bind_ok hpublic, Operation.solo_ask_bind]
    exact Operation.solo_lift_bind hattempts
  · have hdeeds := Operation.deeds_lift_bind (f := conclude r) hattempts
    rw [deeds_conclude, List.append_nil] at hdeeds
    rw [register, Operation.deeds_bind_ok hpublic, (Keys.ofKeys_publicKeys _).deeds_eq_nil]
    exact hdeeds ▸ hmakes

/-! ## The end of a round -/

section End

variable {ack : Ack} {e : RegistryError}

/-- A record that waits in the round is changed as the outcome tells. -/
theorem solo_conclude_writes {outcome : Except GiveUp Ack} {change : Change}
    {next : Moment → Record} (hr : t.store.get? r.identity = some old)
    (hv : old.version = r.version) (h : ending r outcome = .ok (inRound r.version change))
    (hc : ∀ now, change now old = .ok (some (next now)))
    (hid : ∀ now, (next now).identity = old.identity) : ∃ now t₁,
    (conclude r outcome).solo p t = (.ok { next now with version := old.version + 1 }, t₁) ∧
      t.Replaces r.identity { next now with version := old.version + 1 } t₁ := by
  have hmay : old.mayBeIn r.version = true := by simp [Record.mayBeIn, hv]
  have hneeded (now : Moment) : inRound r.version change now old = .ok (some (next now)) :=
    inRound_eq_some_iff.2 ⟨hmay, hc now⟩
  obtain ⟨now, t₁, hrun, hrecords, -⟩ := (Stage.undisturbed p).revise_writes hr hneeded
    fun now => (hid now).trans (Store.identity_of_get? hr)
  exact ⟨now, t₁, conclude_of_ending h ▸ Operation.solo_of_runIn hrun, hrecords⟩

variable (ack) in
/-- An acknowledgement moves a record that waits in the round. -/
theorem solo_conclude_ok (hr : t.store.get? r.identity = some old) (hs : old.status = .initiated)
    (hv : old.version = r.version) : ∃ now t₁,
    (conclude r (.ok ack)).solo p t = (.ok { old with
      status := .underSubscription, messageId := some ack.messageId, updatedAt := now,
      version := old.version + 1 }, t₁) ∧
    t.Replaces r.identity { old with
      status := .underSubscription, messageId := some ack.messageId, updatedAt := now,
      version := old.version + 1 } t₁ := by
  have hmoves (now : Moment) : acknowledge ack now old = .ok (some
      { old.withStatus .underSubscription now with messageId := some ack.messageId }) :=
    acknowledge_eq_some_iff.2 ⟨hs ▸ .accepted, rfl⟩
  exact solo_conclude_writes hr hv rfl hmoves fun _ => rfl

/-- A refusal ends the registration of a record that waits in the round. -/
theorem solo_conclude_definitive (hr : t.store.get? r.identity = some old)
    (hs : old.status = .initiated) (hv : old.version = r.version) : ∃ now t₁,
    (conclude r (.error (.definitive e))).solo p t = (.ok { old with
      status := .invalid, nonce := none, updatedAt := now, version := old.version + 1 }, t₁) ∧
    t.Replaces r.identity { old with
      status := .invalid, nonce := none, updatedAt := now, version := old.version + 1 } t₁ := by
  have hmoves (now : Moment) : follow .rejected now old =
      .ok (some (old.withStatus .invalid now)) :=
    follow_eq_some_iff.2 ⟨hs ▸ .rejected, rfl⟩
  exact solo_conclude_writes hr hv rfl hmoves fun _ => rfl

/-- The outcome of a round is dropped by a record that does not wait in it. -/
theorem ending_skips {outcome : Except GiveUp Ack} {change : Change} {now : Moment}
    (h : ending r outcome = .ok change)
    (hout : old.status ≠ .initiated ∨ old.version ≠ r.version) : change now old = .ok none := by
  -- Either the record waits in a later round, or it ignores what the registry tells.
  by_cases hs : old.status = .initiated
  · have hlater : old.mayBeIn r.version = false := by
      simpa [Record.mayBeIn, hs] using hout
    rcases outcome with (_ | _) | _ <;> cases h <;> rw [inRound, if_neg (by rw [hlater]; decide)]
  · have haccepted : permit old.status .accepted = .ok .ignore := by
      cases hstatus : old.status <;> first | exact absurd hstatus hs | rfl
    have hrejected : permit old.status .rejected = .ok .ignore := by
      cases hstatus : old.status <;> first | exact absurd hstatus hs | rfl
    have hmay : old.mayBeIn r.version = true := by simp [Record.mayBeIn, hs]
    rcases outcome with (_ | _) | _ <;> cases h <;>
      simp [inRound, hmay, acknowledge, follow, haccepted, hrejected, bind, Except.bind, pure,
        Except.pure]

theorem solo_conclude_skips {outcome : Except GiveUp Ack} {change : Change}
    (hr : t.store.get? r.identity = some old) (h : ending r outcome = .ok change)
    (hout : old.status ≠ .initiated ∨ old.version ≠ r.version) :
    ∃ t₁, (conclude r outcome).solo p t = (.ok old, t₁) ∧ t₁.store = t.store := by
  obtain ⟨t₁, hrun, hstore⟩ :=
    (Stage.undisturbed p).revise_skips hr fun _ => ending_skips h hout
  exact ⟨t₁, conclude_of_ending h ▸ Operation.solo_of_runIn hrun, hstore⟩

end End

/-- **One round.**  A round for a record whose keyset is held calls the registry until
the first answer that is decisive, or until no attempts are left.  Its attempts are
numbered from one on; all of its calls are one and the same request, of the kind of
the round, and each but the last has the pause of its number after it.

If nobody else writes the record and it still waits in the round, it is
acknowledged or refused as the last answer tells.  If the attempts are used up,
nothing is written, and the error tells how many they were and why the last one
failed. -/
theorem solo_register (s : Service) (kind : RoundKind) (hold : t.store.get? r.identity = some old)
    (hk : t.surroundings.found p r.identity.keyId = some keys) :
    ∃ last, s.retry.LastAttempt t.lot.heard last ∧
      (s.retry.maxAttempts < UInt32.size → last < UInt32.size) ∧
      (∀ (m : Type → Type) [Monad m] [LawfulMonad m] (make pause : Nat → m Unit),
        s.retry.run pause (fun n => do make n; return t.lot.heard (n - 1)) = (do
          forM (List.range' 1 (last - 1)) fun n => do
            make n
            pause n
          make last
          return Backoff.said last (t.lot.heard (last - 1)))) ∧
      s.retry.Makes (callOf t r kind keys) 1 last ((s.register r kind).run.deeds p t) ∧
      (old.status = .initiated → old.version = r.version →
        (∀ ack, t.lot.heard (last - 1) = .ok ack → ∃ now t₁,
          (s.register r kind).solo p t = (.ok { old with
            status := .underSubscription, messageId := some ack.messageId, updatedAt := now,
            version := old.version + 1 }, t₁) ∧
          t.Replaces r.identity { old with
            status := .underSubscription, messageId := some ack.messageId, updatedAt := now,
            version := old.version + 1 } t₁) ∧
        ∀ e, t.lot.heard (last - 1) = .error e → e.isRetryable = false → ∃ now t₁,
          (s.register r kind).solo p t = (.ok { old with
            status := .invalid, nonce := none, updatedAt := now,
            version := old.version + 1 }, t₁) ∧
          t.Replaces r.identity { old with
            status := .invalid, nonce := none, updatedAt := now,
            version := old.version + 1 } t₁) ∧
      (old.status ≠ .initiated ∨ old.version ≠ r.version →
        Backoff.decisive (t.lot.heard (last - 1)) = true → ∃ t₁,
          (s.register r kind).solo p t = (.ok old, t₁) ∧ t₁.store = t.store) ∧
      ∀ e, t.lot.heard (last - 1) = .error e → e.isRetryable = true →
        last = max 1 s.retry.maxAttempts ∧
        (∃ t₁, (s.register r kind).solo p t = (.error (.noAnswer (.exhausted last e)), t₁) ∧
          t₁.store = t.store) ∧
        ServiceError.message (.noAnswer (.exhausted last e)) =
          "Registry unavailable: " ++ (Nat.repr last ++ " attempts: " ++ e.message) := by
  obtain ⟨t₁, hstore, hsolo, hmakes⟩ := solo_attempts s kind hk
  have hold₁ : t₁.store.get? r.identity = some old := hstore ▸ hold
  have hreplaces {t₂ : Stage} {new : Record} (h : t₁.Replaces r.identity new t₂) :
      t.Replaces r.identity new t₂ := by
    unfold Stage.Replaces at h ⊢
    rwa [hstore] at h
  have hlast := s.retry.lastAttempt t.lot.heard
  refine ⟨s.retry.last t.lot.heard, hlast, ?_, fun _ _ _ _ _ => Backoff.run_eq .., hmakes, ?_, ?_,
    ?_⟩
  · intro hfits
    have hle := hlast.le
    have hsize : UInt32.size = 4294967296 := rfl
    omega
  · intro hs hv
    constructor
    · intro ack hheard
      rw [hheard] at hsolo
      obtain ⟨now, t₂, hconcluded, hwritten⟩ := solo_conclude_ok (p := p) ack hold₁ hs hv
      exact ⟨now, t₂, hsolo.trans hconcluded, hreplaces hwritten⟩
    · intro e hheard he
      rw [hheard, Backoff.said_definitive he] at hsolo
      obtain ⟨now, t₂, hconcluded, hwritten⟩ :=
        solo_conclude_definitive (p := p) (e := e) hold₁ hs hv
      exact ⟨now, t₂, hsolo.trans hconcluded, hreplaces hwritten⟩
  · intro hout hdecisive
    obtain ⟨change, hending⟩ : ∃ change, ending r (Backoff.said (s.retry.last t.lot.heard)
        (t.lot.heard (s.retry.last t.lot.heard - 1))) = .ok change := by
      cases hheard : t.lot.heard (s.retry.last t.lot.heard - 1) with
      | ok ack => exact ⟨_, rfl⟩
      | error e =>
        have he : e.isRetryable = false := by simpa [Backoff.decisive, hheard] using hdecisive
        exact ⟨_, by rw [Backoff.said_definitive he]; rfl⟩
    obtain ⟨t₂, hconcluded, hsame⟩ := solo_conclude_skips (p := p) hold₁ hending hout
    exact ⟨t₂, hsolo.trans hconcluded, hsame.trans hstore⟩
  · intro e hheard he
    refine ⟨hlast.ends.resolve_left ?_, ⟨t₁, ?_, hstore⟩, rfl⟩
    · simp [Backoff.decisive, hheard, he]
    · rw [hsolo, hheard, Backoff.said_exhausted he]
      rfl

end Service

/-- The registry cannot be reached at first, and then takes up the request. -/
def Lot.hesitant : Lot :=
  { sample ⟨[], []⟩ with
    heard := fun n => match n with
      | 0 => .error (.unavailable .unreachable)
      | _ + 1 => .ok ⟨"ACK", "request"⟩ }

/-- Then the second attempt is acknowledged. -/
theorem Service.round_hesitant : ∃ (t : Stage) (r : Record) (keys : Keyset) (now : Moment)
    (t₁ : Stage),
    t.lot = .hesitant ∧ t.store.get? r.identity = some r ∧
    t.surroundings.found 0 r.identity.keyId = some keys ∧ r.status = .initiated ∧
    Backoff.Makes ⟨2, 0, 0, 1, false⟩ (callOf t r .initial keys) 1 2
      ((register ⟨"", ⟨2, 0, 0, 1, false⟩⟩ r .initial).run.deeds 0 t) ∧
    (register ⟨"", ⟨2, 0, 0, 1, false⟩⟩ r .initial).solo 0 t = (.ok { r with
      status := .underSubscription, messageId := some "request", updatedAt := now,
      version := r.version + 1 }, t₁) := by
  have hwaits : (World.unchallenged.store.get? sampleIdentity).map (·.status) =
      some .initiated := by
    decide +kernel
  have hkeys : World.unchallenged.surroundings.found 0 sampleIdentity.keyId = some ⟨[], []⟩ := by
    decide +kernel
  obtain ⟨r, hr, hs⟩ := Option.map_eq_some_iff.1 hwaits
  have hid : r.identity = sampleIdentity := Store.identity_of_get? hr
  rw [← hid] at hr hkeys
  let t : Stage := ⟨.hesitant, World.unchallenged.surroundings⟩
  obtain ⟨last, hlast, -, -, hmakes, hwaiting, -⟩ := solo_register (t := t) (p := 0)
    ⟨"", ⟨2, 0, 0, 1, false⟩⟩ .initial hr hkeys
  obtain rfl : last = 2 := by
    have hpos := hlast.pos
    have hle : last ≤ 2 := hlast.le
    have hne : last ≠ 1 := by
      rintro rfl
      exact hlast.ends.elim nofun nofun
    omega
  obtain ⟨now, t₁, hsolo, -⟩ := (hwaiting hs rfl).1 ⟨"ACK", "request"⟩ rfl
  exact ⟨t, r, _, now, t₁, rfl, hr, hkeys, hs, hmakes, hsolo⟩

end Enrolment
