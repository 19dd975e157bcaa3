import Enrolment.Proofs.Upholds

/-!
# What operations ask for

Much of what an operation does can be told without following the answers: it
asks only for things of a kind, whatever it is answered.  The operations that
serve others keep to their own process and store, and start rounds, if they do,
in the end, when nothing can fail any more.

## Main definitions

* `Plan.Asks` — the plan asks only for what is allowed, and ends as promised.
* `Ask.isLocal` — the ask goes neither to the registry nor to another task.
* `Plan.Settles` — the plan asks locally, and then may start rounds, after which
  it ends well.

## Main statements

* `Service.Call.settles_operation` — calls that are no rounds settle.
* `Service.asks_register` — rounds start no rounds.
-/

namespace Enrolment

/-! ## Plans -/

namespace Plan

variable {α β : Type} {P P' : Ask → Prop} {Q Q' : α → Prop} {R : β → Prop} {p : Plan α}
  {f : α → Plan β}

/-- However it is answered, the plan asks only for what is allowed, and ends as
promised. -/
def Asks (P : Ask → Prop) (Q : α → Prop) : Plan α → Prop
  | done a => Q a
  | step ask next => P ask ∧ ∀ reply, (next reply).Asks P Q

namespace Asks

theorem mono (h : p.Asks P Q) (hP : ∀ ask, P ask → P' ask) (hQ : ∀ a, Q a → Q' a) :
    p.Asks P' Q' := by
  induction p with
  | done a => exact hQ a h
  | step ask next ih => exact ⟨hP ask h.1, fun reply => ih reply (h.2 reply)⟩

theorem bind (h : p.Asks P Q) (hf : ∀ a, Q a → (f a).Asks P R) : (p >>= f).Asks P R := by
  induction p with
  | done a => exact hf a h
  | step ask next ih => exact ⟨h.1, fun reply => ih reply (h.2 reply)⟩

theorem ask {a : Ask} (h : P a) : (Plan.ask a).Asks P fun _ => True := ⟨h, fun _ => trivial⟩

end Asks

/-- A plan that keeps to what is allowed meets a guarantee that all of it
meets. -/
theorem Upholds.guarded {task : Task} {G G' : Guarantee} {Q : α → List Occurrence → Prop}
    {R : α → Prop} {past : List Occurrence} (h : p.Upholds task G Q past) (ha : p.Asks P R)
    (hG : ∀ ask reply past, P ask → G' (.answered task ask reply) past) :
    p.Upholds task G' Q past := by
  induction p generalizing past with
  | done a => exact h
  | step ask next ih =>
    intro past₁ h₁ c₁ reply ht
    obtain ⟨-, hnext⟩ := h past₁ h₁ c₁ reply ht
    exact ⟨hG ask reply past₁ ha.1, ih reply hnext (ha.2 reply)⟩

/-- A plan that keeps to what is allowed leaves nothing else behind. -/
theorem Upholds.since {task : Task} {G : Guarantee} {Q : α → List Occurrence → Prop} {R : α → Prop}
    {past : List Occurrence} (h : p.Upholds task G Q past) (ha : p.Asks P R)
    (own : Occurrence → Prop) (hown : ∀ ask reply, P ask → own (.answered task ask reply)) :
    p.Upholds task G (fun a past' => Since task.number own past past' ∧ Q a past') past := by
  induction p generalizing past with
  | done a => exact ⟨.refl past, h⟩
  | step ask next ih =>
    intro past₁ h₁ c₁ reply ht
    obtain ⟨hg, hnext⟩ := h past₁ h₁ c₁ reply ht
    refine ⟨hg, (ih reply hnext (ha.2 reply)).mono ?_⟩
    rintro a past₂ - ⟨hs, hQ⟩
    have hfirst : Since task.number own past (.answered task ask reply :: past₁) :=
      (h₁.mono fun _ => False.elim).cons fun _ => hown ask reply ha.1
    exact ⟨hfirst.trans hs, hQ⟩

/-- A plan that keeps to what is allowed makes every ask before it has left anything
else behind. -/
theorem Upholds.guarded_since {task : Task} {G G' : Guarantee} {Q : α → List Occurrence → Prop}
    {R : α → Prop} {past : List Occurrence} (h : p.Upholds task G Q past) (ha : p.Asks P R)
    (own : Occurrence → Prop) (hown : ∀ ask reply, P ask → own (.answered task ask reply))
    (hG : ∀ ask reply past', Since task.number own past past' → G (.answered task ask reply) past' →
      G' (.answered task ask reply) past') :
    p.Upholds task G' Q past := by
  induction p generalizing past with
  | done a => exact h
  | step ask next ih =>
    intro past₁ h₁ c₁ reply ht
    obtain ⟨hg, hnext⟩ := h past₁ h₁ c₁ reply ht
    have hbefore : Since task.number own past past₁ := h₁.mono fun _ => False.elim
    have hfirst := hbefore.cons (o := .answered task ask reply) fun _ => hown ask reply ha.1
    refine ⟨hG ask reply past₁ hbefore hg, ih reply hnext (ha.2 reply) ?_⟩
    exact fun ask' reply' past' hs => hG ask' reply' past' (hfirst.trans hs)

theorem Asks.upholds {task : Task} {G : Guarantee} {past : List Occurrence} (h : p.Asks P Q)
    (hG : ∀ ask reply past, P ask → G (.answered task ask reply) past) :
    p.Upholds task G (fun a _ => Q a) past := by
  induction p generalizing past with
  | done a => exact h
  | step ask next ih =>
    intro past₁ _ _ reply _
    exact ⟨hG ask reply past₁ h.1, ih reply (h.2 reply)⟩

end Plan

/-! ## Operations -/

namespace Operation

variable {α β : Type} {P : Ask → Prop} {Q : Except ServiceError α → Prop}
  {R : Except ServiceError β → Prop} {x : Operation α} {f : α → Operation β}

/-- However it is answered, the operation asks only for what is allowed, and ends
as promised. -/
def Asks (P : Ask → Prop) (Q : Except ServiceError α → Prop) (x : Operation α) : Prop :=
  x.run.Asks P Q

namespace Asks

/-- The plan of an operation. -/
theorem run (h : x.Asks P Q) : x.run.Asks P Q := h

theorem of_run (h : x.run.Asks P Q) : x.Asks P Q := h

theorem mono {P' : Ask → Prop} {Q' : Except ServiceError α → Prop} (h : x.Asks P Q)
    (hP : ∀ ask, P ask → P' ask) (hQ : ∀ res, Q res → Q' res) : x.Asks P' Q' :=
  Plan.Asks.mono h hP hQ

theorem pure {a : α} (h : Q (.ok a)) : (pure a : Operation α).Asks P Q := h

theorem throw {e : ServiceError} (h : Q (.error e)) : (throw e : Operation α).Asks P Q := h

theorem bind (h : x.Asks P Q) (hok : ∀ a, Q (.ok a) → (f a).Asks P R)
    (herr : ∀ e, Q (.error e) → R (.error e)) : (x >>= f).Asks P R := by
  refine Plan.Asks.bind h ?_
  intro res hres
  cases res with
  | ok a => exact hok a hres
  | error e => exact herr e hres

/-- One operation after another, whatever they end with. -/
theorem seq (h : x.Asks P fun _ => True) (hf : ∀ a, (f a).Asks P fun _ => True) :
    (x >>= f).Asks P fun _ => True :=
  h.bind (fun a _ => hf a) fun _ _ => trivial

theorem ask {a : Ask} (h : P a) : (Operation.ask a).Asks P fun _ => True :=
  ⟨h, fun _ => trivial⟩

theorem ask_bind {a : Ask} {f : a.Reply → Operation β} (h : P a)
    (hf : ∀ reply, (f reply).Asks P R) : (Operation.ask a >>= f).Asks P R :=
  ⟨h, hf⟩

theorem ofExcept {ε : Type} {g : ε → ServiceError} (r : Except ε α) :
    (ofExcept g r).Asks P fun _ => True := by
  cases r <;> exact trivial

theorem ofStore (r : Except StoreError α) : (ofStore r).Asks P fun _ => True := ofExcept r

theorem map {f : α → β} (h : x.Asks P fun _ => True) : (f <$> x).Asks P fun _ => True := by
  rw [map_eq_pure_bind]
  exact h.seq fun _ => trivial

theorem adapt {g : ServiceError → ServiceError} (h : x.Asks P fun _ => True) :
    Operation.Asks P (fun _ => True) (ExceptT.adapt g x) :=
  Plan.Asks.bind h fun _ _ => trivial

theorem lift {p : Plan α} (h : p.Asks P fun _ => True) :
    Operation.Asks P (fun _ => True) (liftM p : Operation α) :=
  Plan.Asks.bind h fun _ _ => trivial

theorem mapM {l : List α} (h : ∀ a, (f a).Asks P fun _ => True) :
    (l.mapM f).Asks P fun _ => True := by
  induction l with
  | nil => exact trivial
  | cons a l ih =>
    rw [List.mapM_cons]
    exact (h a).seq fun _ => ih.seq fun _ => trivial

/-- An operation that keeps to what is allowed meets a guarantee that all of it
meets. -/
theorem guarded {task : Task} {G G' : Guarantee}
    {T : Except ServiceError α → List Occurrence → Prop} {past : List Occurrence}
    (ha : x.Asks P Q) (h : x.Upholds task G T past)
    (hG : ∀ ask reply past, P ask → G' (.answered task ask reply) past) :
    x.Upholds task G' T past := by
  unfold Operation.Upholds at h ⊢
  exact Plan.Upholds.guarded h ha hG

/-- An operation that keeps to what is allowed leaves nothing else behind. -/
theorem since {task : Task} {G : Guarantee} {T : Except ServiceError α → List Occurrence → Prop}
    {past : List Occurrence} (ha : x.Asks P Q) (h : x.Upholds task G T past)
    (own : Occurrence → Prop) (hown : ∀ ask reply, P ask → own (.answered task ask reply)) :
    x.Upholds task G (fun res past' => Since task.number own past past' ∧ T res past') past := by
  unfold Operation.Upholds at h ⊢
  exact Plan.Upholds.since h ha own hown

theorem upholds {task : Task} {G : Guarantee} {past : List Occurrence} (h : x.Asks P Q)
    (hG : ∀ ask reply past, P ask → G (.answered task ask reply) past) :
    x.Upholds task G (fun res _ => Q res) past := by
  unfold Operation.Upholds
  exact Plan.Asks.upholds h hG

end Asks

-- From here on operations are followed by the rules alone.
attribute [irreducible] Operation.Asks

end Operation

/-! ## Asks of a process -/

/-- The ask is between a task and its own process and store. -/
def Ask.isLocal : Ask → Bool
  | call .. | schedule .. => false
  | _ => true

/-- The ask is about keysets. -/
def Ask.isOfKeys : Ask → Bool
  | storedKeys _ | offerKeys .. | keysAtHand _ | keepKeys .. | freshKeys => true
  | _ => false

theorem Ask.isLocal_of_isOfKeys {ask : Ask} (h : ask.isOfKeys = true) : ask.isLocal = true := by
  cases ask with
  | call | schedule => cases h
  | _ => rfl

/-- The operation keeps to its own process and store. -/
abbrev Operation.Local {α : Type} (x : Operation α) : Prop :=
  x.Asks (·.isLocal = true) fun _ => True

/-- The operation only uses keysets. -/
abbrev Operation.OfKeys {α : Type} (x : Operation α) : Prop :=
  x.Asks (·.isOfKeys = true) fun _ => True

open Operation (Local OfKeys)

theorem Operation.OfKeys.isLocal {α : Type} {x : Operation α} (h : x.OfKeys) : x.Local :=
  h.mono (fun _ => Ask.isLocal_of_isOfKeys) fun _ h => h

namespace Keys

variable (keyId : String)

theorem ofKeys_keep (keys : Keyset) : OfKeys (keep keyId keys) :=
  .ask_bind rfl fun _ => .pure trivial

theorem ofKeys_find? : OfKeys (find? keyId) := by
  refine Operation.Asks.ask_bind rfl ?_
  intro atHand
  cases atHand with
  | some keys => exact .pure trivial
  | none =>
    refine Operation.Asks.ask_bind rfl ?_
    intro stored
    refine (Operation.Asks.ofStore stored).seq ?_
    intro found
    cases found with
    | some keys => exact (ofKeys_keep keyId keys).map
    | none => exact .pure trivial

theorem ofKeys_find : OfKeys (find keyId) := by
  refine (ofKeys_find? keyId).seq ?_
  intro found
  cases found with
  | some keys => exact .pure trivial
  | none => exact .throw trivial

theorem ofKeys_ensure : OfKeys (ensure keyId) := by
  refine (ofKeys_find? keyId).seq ?_
  intro found
  cases found with
  | some keys => exact .pure trivial
  | none =>
    refine .ask_bind rfl fun fresh => .ask_bind rfl fun stored => ?_
    exact (Operation.Asks.ofStore stored).seq fun keys =>
      (ofKeys_keep keyId keys).seq fun _ => .pure trivial

theorem local_ensure : Local (ensure keyId) := (ofKeys_ensure keyId).isLocal

theorem ofKeys_publicKeys : OfKeys (publicKeys keyId) := (ofKeys_find keyId).map

theorem local_publicKeys : Local (publicKeys keyId) := (ofKeys_publicKeys keyId).isLocal

theorem local_openFrom (blob peer : String) : Local (openFrom keyId blob peer) := by
  refine (ofKeys_find keyId).isLocal.seq ?_
  intro keys
  exact Operation.Asks.ofExcept _

theorem ofKeys_authorize (identity : Identity) (body : Bytes) (now : Int) :
    OfKeys (authorize identity body now) :=
  (ofKeys_find identity.keyId).map.seq fun _ => .pure trivial

theorem local_authorize (identity : Identity) (body : Bytes) (now : Int) :
    Local (authorize identity body now) :=
  (ofKeys_authorize identity body now).isLocal

end Keys

theorem Challenge.local_resolve (registryKey challenge keyId : String) :
    Local (resolve registryKey challenge keyId) := by
  unfold resolve
  split
  · exact .throw trivial
  · refine (Keys.local_openFrom keyId challenge registryKey).adapt.seq ?_
    intro answer
    by_cases hempty : answer = ""
    · simp only [hempty, if_true]
      exact .throw trivial
    · simp only [hempty, if_false]
      exact .pure trivial

/-- A change looks at its record and at the clock, and replaces the record. -/
theorem asks_reviseWithin {P : Ask → Prop} (i : Identity) (change : Change) (hlook : P (.lookup i))
    (hclock : P .clock) (hreplace : ∀ next expected, P (.replace next expected)) :
    ∀ rounds, (reviseWithin i change rounds).Asks P fun _ => True
  | 0 => .throw trivial
  | rounds + 1 => by
    refine .ask_bind hlook fun found => (Operation.Asks.ofStore found).seq fun current => ?_
    refine .ask_bind hclock fun now => (Operation.Asks.ofExcept (change now current)).seq ?_
    rintro (- | next)
    · exact .pure trivial
    · refine Operation.Asks.ask_bind (hreplace _ _) ?_
      rintro (e | stored)
      · cases e with
        | versionConflict => exact asks_reviseWithin i change hlook hclock hreplace rounds
        | _ => exact .throw trivial
      · exact .pure trivial

theorem local_revise (i : Identity) (change : Change) : Local (revise i change) :=
  asks_reviseWithin (P := (·.isLocal = true)) i change rfl rfl (fun _ _ => rfl) maxRounds

namespace Service

theorem local_pushStatus (i : Identity) (status : String) : Local (pushStatus i status) := by
  unfold pushStatus
  cases Status.read? status with
  | none => exact .throw trivial
  | some target => exact local_revise i (follow (.pushed target))

theorem local_get (i : Identity) : Local (get i) :=
  .ask_bind rfl fun found => .ofStore found

theorem local_findChallenged (subscriberId : String) : Local (findChallenged subscriberId) := by
  refine .ask_bind rfl fun found => (Operation.Asks.ofStore found).seq fun records => ?_
  split
  · exact .throw trivial
  · exact .pure trivial
  · exact .throw trivial

theorem local_answerChallenge (s : Service) (subscriberId : String) (keyId : Option String)
    (challenge : String) : Local (s.answerChallenge subscriberId keyId challenge) := by
  have hfound (current : Record) : Local (do
      let keyId := current.identity.keyId
      let _ ← Operation.ofExcept id (permit current.status .challenged)
      let answer ← Challenge.resolve s.registryKey challenge keyId
      let _ ← revise ⟨subscriberId, keyId⟩ (keepAnswer answer)
      return answer) := by
    refine (Operation.Asks.ofExcept _).seq fun _ => ?_
    refine (Challenge.local_resolve _ _ _).seq fun answer => ?_
    exact (local_revise _ (keepAnswer answer)).seq fun _ => .pure trivial
  unfold answerChallenge
  cases keyId with
  | none => exact (local_findChallenged subscriberId).seq hfound
  | some keyId =>
    exact .ask_bind rfl fun found => (Operation.Asks.ofStore found).seq hfound

theorem local_readiness : Local readiness := by
  refine .mapM fun status => .ask_bind rfl fun found => ?_
  exact (Operation.Asks.ofStore found).seq fun _ => .pure trivial

theorem local_conclude (r : Record) (outcome : Except GiveUp Ack) : Local (conclude r outcome) := by
  rcases outcome with (_ | _) | _
  · exact .throw trivial
  · exact local_revise _ _
  · exact local_revise _ _

/-! ## Starting rounds -/

end Service

/-- The ask starts a round. -/
def Ask.starts : Ask → Bool
  | schedule .. => true
  | _ => false

theorem Ask.starts_of_isLocal {a : Ask} (h : a.isLocal = true) : a.starts = false := by
  cases a with
  | schedule => cases h
  | _ => rfl

variable {α β : Type}

/-- The plan asks locally, and then may start rounds; once it has started one it
starts others only, and ends well. -/
def Plan.Settles : Plan (Except ServiceError α) → Prop
  | done _ => True
  | step ask next => (ask.isLocal = true ∧ ∀ reply, (next reply).Settles) ∨
      (ask.starts = true ∧ ∀ reply, (next reply).Asks (·.starts = true) (·.isOk = true))

/-- The same for an operation. -/
def Operation.Settles (x : Operation α) : Prop := Plan.Settles x.run

namespace Operation.Settles

variable {x : Operation α} {f : α → Operation β}

theorem run (h : x.Settles) : x.run.Settles := h

theorem pure (a : α) : (pure a : Operation α).Settles := trivial

theorem throw (e : ServiceError) : (throw e : Operation α).Settles := trivial

/-- All that is asked. -/
theorem asks (h : x.Settles) :
    x.Asks (fun ask => ask.isLocal = true ∨ ask.starts = true) fun _ => True := by
  have hplan : ∀ p : Plan (Except ServiceError α), p.Settles →
      p.Asks (fun ask => ask.isLocal = true ∨ ask.starts = true) fun _ => True := by
    intro p hp
    induction p with
    | done res => exact trivial
    | step ask next ih =>
      rcases hp with ⟨hlocal, hnext⟩ | ⟨hstarts, hnext⟩
      · exact ⟨.inl hlocal, fun reply => ih reply (hnext reply)⟩
      · exact ⟨.inr hstarts, fun reply => (hnext reply).mono (fun _ => .inr) fun _ _ => trivial⟩
  exact .of_run (hplan x.run h)

theorem of_starts (h : x.Asks (·.starts = true) (·.isOk = true)) : x.Settles := by
  have hrun := h.run
  unfold Settles
  cases hp : x.run with
  | done res => exact trivial
  | step ask next =>
    rw [hp] at hrun
    exact .inr hrun

/-- What is asked locally comes first. -/
theorem bind (h : Local x) (hf : ∀ a, (f a).Settles) : (x >>= f).Settles := by
  have hplan : ∀ p : Plan (Except ServiceError α), p.Asks (·.isLocal = true) (fun _ => True) →
      Plan.Settles (p >>= ExceptT.bindCont f) := by
    intro p hp
    induction p with
    | done res =>
      cases res with
      | ok a => exact hf a
      | error e => exact trivial
    | step ask next ih => exact .inl ⟨hp.1, fun reply => ih reply (hp.2 reply)⟩
  exact hplan x.run h.run

end Operation.Settles

-- From here on operations are followed by the rules alone.
attribute [irreducible] Operation.Settles

theorem Operation.Local.settles {x : Operation α} (h : Local x) : x.Settles := by
  rw [← bind_pure x]
  exact .bind h .pure

namespace Service

theorem settles_create (i : Identity) (role : String) (payload : Payload) :
    (create i role payload).Settles := by
  refine .bind (.ask rfl) fun now => .bind (.ofExcept _) fun fresh => ?_
  refine .bind (Keys.local_ensure i.keyId) fun _ => .bind (.ask rfl) ?_
  rintro (e | stored)
  · cases e with
    | alreadyExists =>
      refine .bind (.ask rfl) fun found => .bind (.ofStore found) fun existing => ?_
      by_cases hsame : existing.sameRegistration role payload = true
      · simp only [hsame, if_true]
        exact .pure existing
      · simp only [hsame]
        exact .throw _
    | _ => exact .throw _
  · exact .of_starts (.ask_bind rfl fun _ => .pure rfl)

theorem settles_update (i : Identity) (role : String) (payload : Payload) :
    (update i role payload).Settles := by
  refine .bind (.ofExcept _) fun _ => .bind (.ofExcept _) fun _ => ?_
  refine .bind (.ask rfl) fun found => .bind (.ofStore found) fun _ => ?_
  refine .bind (Keys.local_publicKeys i.keyId) fun _ => ?_
  refine .bind (local_revise i (makeAgain role payload)) fun stored => ?_
  exact .of_starts (.ask_bind rfl fun _ => .pure rfl)

theorem settles_resume : resume.Settles := by
  have hall (records : List Record) : Operation.Asks (·.starts = true) (·.isOk = true)
      (records.forM fun r => Operation.ask (.schedule r (.ofRecord r))) := by
    induction records with
    | nil => exact .pure rfl
    | cons r records ih => exact .ask_bind rfl fun _ => ih
  refine .bind (.ask rfl) fun found => .bind (.ofStore found) fun records => ?_
  refine .of_starts ((hall records).bind ?_ ?_)
  · intro _ _
    exact .pure rfl
  · intro e he
    exact he

/-- Calls that are no rounds ask locally, and start rounds last. -/
theorem Call.settles_operation {c : Service.Call} (s : Service) (hc : c.isRound = false) :
    (c.operation s).Settles := by
  cases c with
  | create i role payload => exact settles_create i role payload
  | update i role payload => exact settles_update i role payload
  | answerChallenge subscriberId keyId challenge =>
    exact (local_answerChallenge s subscriberId keyId challenge).settles
  | pushStatus i status => exact (local_pushStatus i status).settles
  | get i => exact (local_get i).settles
  | readiness => exact local_readiness.settles
  | resume => exact settles_resume
  | register r kind => cases hc

/-! ## Rounds -/

/-- Calls until one tells the end ask only for what each call and each pause
asks for. -/
theorem asks_runFrom {P : Ask → Prop} {pause : Nat → Plan Unit}
    {call : Nat → Plan (Except RegistryError Ack)} (hp : ∀ n, (pause n).Asks P fun _ => True)
    (hc : ∀ n, (call n).Asks P fun _ => True) (attempt left : Nat) :
    (Backoff.runFrom pause call attempt left).Asks P fun _ => True := by
  induction left generalizing attempt with
  | zero =>
    refine (hc attempt).bind ?_
    rintro (e | ack) - <;> exact trivial
  | succ left ih =>
    refine (hc attempt).bind ?_
    rintro (e | ack) -
    · by_cases hr : e.isRetryable = true
      · simp only [hr, if_true]
        exact (hp attempt).bind fun _ _ => ih (attempt + 1)
      · simp only [hr]
        exact trivial
    · exact trivial

theorem local_pauseAfter (retry : Backoff) (attempt : Nat) :
    (pauseAfter retry attempt).Asks (·.isLocal = true) fun _ => True := by
  have hpause (drawn : Nat) : (Plan.ask (.pause (retry.delay attempt drawn))).Asks
      (·.isLocal = true) fun _ => True := Plan.Asks.ask rfl
  unfold pauseAfter
  by_cases hmost : retry.maxJitter attempt = 0
  · simp only [hmost, if_true]
    exact hpause 0
  · simp only [hmost, if_false]
    exact Plan.Asks.bind (Q := fun _ => True) ⟨rfl, fun _ => trivial⟩ fun drawn _ => hpause drawn

/-- Rounds start no rounds. -/
theorem asks_register (s : Service) (r : Record) (kind : RoundKind) :
    (s.register r kind).Asks (·.starts = false) fun _ => True := by
  have hlocal {γ : Type} {x : Operation γ} (h : Local x) :
      x.Asks (·.starts = false) fun _ => True :=
    h.mono (fun _ => Ask.starts_of_isLocal) fun _ h => h
  have hpause (n : Nat) : (pauseAfter s.retry n).Asks (·.starts = false) fun _ => True :=
    (local_pauseAfter s.retry n).mono (fun _ => Ask.starts_of_isLocal) fun _ h => h
  have hcall (request : Request) : (callRegistry request kind).Asks (·.starts = false)
      fun _ => True := by
    cases kind with
    | initial => exact ⟨rfl, fun _ => trivial⟩
    | update =>
      refine Plan.Asks.bind (Q := fun _ => True) ⟨rfl, fun _ => trivial⟩ ?_
      intro now _
      refine (hlocal (Keys.local_authorize _ _ _)).run.bind ?_
      rintro (e | header) -
      · exact trivial
      · exact ⟨rfl, fun _ => trivial⟩
  refine (hlocal (Keys.local_publicKeys _)).seq fun keys => .ask_bind rfl fun messageId => ?_
  refine (Operation.Asks.lift (asks_runFrom hpause (fun _ => hcall _) _ _)).seq fun outcome => ?_
  exact hlocal (local_conclude r outcome)

theorem Call.asks_of_isRound {c : Service.Call} (s : Service) (hc : c.isRound = true) :
    (c.operation s).Asks (·.starts = false) fun _ => True := by
  cases c with
  | register r kind => exact asks_register s r kind
  | _ => cases hc

end Service

end Enrolment
