import Enrolment.Proofs.Abreast
import Enrolment.Proofs.Errands
import Mathlib.Data.List.Forall2

/-!
# What answers do not tell

The answer to a challenge is for the registry alone, and so is a private key.
Nobody learns anything of them who makes, replaces, follows or looks at
registrations, or takes stock: if two services differ only in such secrets, the
same requests are answered in the same way by both, whatever the registry tells
them in between, and afterwards they differ in their secrets only.

## Main definitions

* `Record.SameButNonce`, `Surroundings.SameButSecrets` — equal but for secrets.
* `Arrival`, `Surroundings.receive` — what arrives from outside, and what goes
  out for it.

## Main statements

* `sameButSecrets_stageMatch` — the rules of operations side by side apply.
* `Surroundings.SameButSecrets.answers_eq` — the answers are the same.
-/

namespace Enrolment

variable {i : Identity} {p : Nat} {s s' : Surroundings} {t u : Stage} {keyId : String}
  {r r' : Record}

/-! ## Equal but for secrets -/

/-- The records are equal but for the answer to a challenge, and that is the same
unless the registry challenges. -/
structure Record.SameButNonce (r r' : Record) : Prop where
  /-- Only the answer to a challenge differs. -/
  eq : r' = { r with nonce := r'.nonce }
  /-- It differs only while the registry challenges. -/
  nonce : r.status ≠ .underSubscription → r'.nonce = r.nonce

theorem Record.SameButNonce.refl (r : Record) : r.SameButNonce r := ⟨rfl, fun _ => rfl⟩

/-- Records of an identity match if they are equal but for secrets. -/
theorem sameButNonce_recordMatch (i : Identity) :
    RecordMatch i fun r r' => r.identity = i ∧ r.SameButNonce r' where
  identity := by
    rintro r r' ⟨hi, heq, -⟩
    exact ⟨hi, heq ▸ hi⟩
  version := by
    rintro r r' ⟨-, heq, -⟩
    rw [heq]
  status := by
    rintro r r' ⟨-, heq, -⟩
    rw [heq]
  same := by
    rintro r r' role payload ⟨-, heq, -⟩
    rw [heq]
    rfl
  refl := fun {r} hi => ⟨hi, .refl r⟩
  withStatus := by
    rintro r r' status now ⟨hi, heq, hnonce⟩
    refine ⟨hi, ?_, ?_⟩
    · rw [heq]
      rfl
    · intro hs
      exact (Record.nonce_withStatus hs).trans (Record.nonce_withStatus hs).symm
  withRegistration := by
    rintro r r' role payload ⟨hi, heq, hnonce⟩
    refine ⟨hi, ?_, hnonce⟩
    rw [heq]
  withMessageId := by
    rintro r r' messageId ⟨hi, heq, hnonce⟩
    refine ⟨hi, ?_, hnonce⟩
    rw [heq]
  withVersion := by
    rintro r r' version ⟨hi, heq, hnonce⟩
    refine ⟨hi, ?_, hnonce⟩
    rw [heq]

/-- What is shown of a record is no secret. -/
theorem Record.SameButNonce.summary_eq (h : r.SameButNonce r') : r'.summary = r.summary := by
  rw [h.eq]
  rfl

/-- The surroundings are equal but for the answers to challenges and what the
keysets are. -/
structure Surroundings.SameButSecrets (s s' : Surroundings) : Prop where
  /-- The same records are stored, but for secrets. -/
  records : ∀ i, Option.Rel Record.SameButNonce (s.store.get? i) (s'.store.get? i)
  /-- The same keys have keysets. -/
  keys : ∀ keyId, (s'.store.keys? keyId).isSome = (s.store.keys? keyId).isSome
  /-- There are as many processes. -/
  processes : s'.processes.length = s.processes.length
  /-- They have keysets at hand for the same keys. -/
  atHand : ∀ p keyId, (s'.atHand p keyId).isSome = (s.atHand p keyId).isSome

/-- What is drawn is equal but for the keyset that is made. -/
def Lot.SameButKeys (l l' : Lot) : Prop := l' = { l with keys := l'.keys }

/-- The same is drawn but for keysets, and found but for secrets. -/
structure Stage.SameButSecrets (t u : Stage) : Prop where
  lot : t.lot.SameButKeys u.lot
  surroundings : t.surroundings.SameButSecrets u.surroundings

namespace Surroundings.SameButSecrets

variable {keys keys' : Keyset} {store store' : Store}

/-- A keyset is kept at hand on both sides. -/
theorem keep (h : s.SameButSecrets s') :
    (s.keep p keyId keys).SameButSecrets (s'.keep p keyId keys') := by
  refine ⟨h.records, h.keys, by simp [Surroundings.keep, h.processes], ?_⟩
  intro q k
  rw [atHand_keep, atHand_keep, h.processes]
  split
  · rfl
  · exact h.atHand q k

theorem found (h : s.SameButSecrets s') (p : Nat) (keyId : String) :
    (s'.found p keyId).isSome = (s.found p keyId).isSome := by
  simp only [Surroundings.found, Option.isSome_or, h.atHand, h.keys]

theorem warm (h : s.SameButSecrets s') :
    (s.warm p keyId).SameButSecrets (s'.warm p keyId) := by
  rcases isSome_cases (h.atHand p keyId) with ⟨hhand, hhand'⟩ | ⟨_, _, hhand, hhand'⟩
  · rcases isSome_cases (h.keys keyId) with ⟨hstored, hstored'⟩ | ⟨keys, keys', hstored, hstored'⟩
    · rw [warm_eq_self (.inr (by simp [hstored])), warm_eq_self (.inr (by simp [hstored']))]
      exact h
    · rw [warm_eq_keep hhand hstored, warm_eq_keep hhand' hstored']
      exact h.keep
  · rw [warm_eq_self (.inl (by simp [hhand])), warm_eq_self (.inl (by simp [hhand']))]
    exact h

/-- Other records in the store, and the same keysets. -/
theorem withStore (h : s.SameButSecrets s')
    (hr : ∀ i, Option.Rel Record.SameButNonce (store.get? i) (store'.get? i))
    (hk : ∀ k, (store'.keys? k).isSome = (store.keys? k).isSome) :
    SameButSecrets { s with store := store } { s' with store := store' } :=
  ⟨hr, hk, h.processes, h.atHand⟩

theorem supply (h : s.SameButSecrets s') :
    (s.supply p keyId keys).SameButSecrets (s'.supply p keyId keys') := by
  have hfound := h.found p keyId
  have hoffered : SameButSecrets { s with store := (s.store.offerKeys keyId keys).2 }
      { s' with store := (s'.store.offerKeys keyId keys').2 } := by
    refine h.withStore (by simpa using h.records) ?_
    intro k
    simp only [Store.keys?_offerKeys, Option.isSome_or, h.keys]
    split <;> rfl
  unfold Surroundings.supply
  rcases isSome_cases hfound with ⟨hs, hs'⟩ | ⟨_, _, hs, hs'⟩
  · rw [hs, hs']
    exact hoffered.keep
  · rw [hs, hs']
    exact h.warm

/-- As many records have a status on both sides. -/
theorem length_withStatus (h : s.SameButSecrets s') (status : Status) :
    (s'.store.withStatus status).length = (s.store.withStatus status).length := by
  have hmem (i : Identity) : i ∈ (s'.store.withStatus status).map Record.identity ↔
      i ∈ (s.store.withStatus status).map Record.identity := by
    rw [Store.mem_map_withStatus, Store.mem_map_withStatus]
    rcases rel_cases (h.records i) with ⟨hs, hs'⟩ | ⟨r, r', hs, hs', hrec⟩
    · rw [hs, hs']
    · have hstatus : r'.status = r.status := by rw [hrec.eq]
      simp [hs, hs', hstatus]
  -- The listings may be in different orders, but no identity is listed twice.
  have hperm := (List.perm_ext_iff_of_nodup Store.nodup_withStatus Store.nodup_withStatus).2 hmem
  simpa using hperm.length_eq

end Surroundings.SameButSecrets

/-! ## Side by side -/

namespace Stage.SameButSecrets

/-- An ask that is answered alike leaves both equal but for secrets. -/
theorem respond (h : t.SameButSecrets u) {ask ask' : Ask} (hl : t.lot.after ask = t.lot)
    (hl' : u.lot.after ask' = u.lot)
    (hs : (t.respond p ask).2.surroundings.SameButSecrets (u.respond p ask').2.surroundings) :
    (t.respond p ask).2.SameButSecrets (u.respond p ask').2 := by
  refine ⟨?_, hs⟩
  show (t.lot.after ask).SameButKeys (u.lot.after ask')
  rw [hl, hl']
  exact h.lot

/-- The clock tells the same on both sides. -/
theorem clock (h : t.SameButSecrets u) : u.lot.readings 0 = t.lot.readings 0 ∧
    (t.respond p .clock).2.SameButSecrets (u.respond p .clock).2 := by
  have hlot : u.lot = { t.lot with keys := u.lot.keys } := h.lot
  refine ⟨by rw [hlot], ?_, h.surroundings⟩
  show u.lot.after .clock = { t.lot.after .clock with keys := (u.lot.after .clock).keys }
  rw [hlot]
  rfl

end Stage.SameButSecrets

/-- Calls for an identity go the same way on stages that are equal but for
secrets. -/
theorem sameButSecrets_stageMatch (p : Nat) (i : Identity) :
    StageMatch p i (fun r r' => r.identity = i ∧ r.SameButNonce r') Stage.SameButSecrets
      Stage.SameButSecrets where
  records := sameButNonce_recordMatch i
  of_ready := id
  clock := Stage.SameButSecrets.clock
  lookup := by
    intro t u h
    rcases rel_cases (h.surroundings.records i) with ⟨ht, hu⟩ | ⟨r, r', ht, hu, hrec⟩
    · simp only [Stage.store, ht, hu]
      exact .none
    · have hi : r.identity = i := Store.identity_of_get? ht
      simp only [Stage.store, ht, hu]
      exact .some ⟨hi, hrec⟩
  replace := by
    rintro t u old old' new new' h ht hu ⟨-, hold⟩ ⟨hi, hnew⟩
    have hi' : new'.identity = i := hnew.eq ▸ hi
    have hversion : old'.version = old.version := by rw [hold.eq]
    refine h.respond rfl rfl (h.surroundings.withStore ?_ ?_)
    · intro j
      rw [Store.get?_put (hi ▸ ht), Store.get?_put (hi' ▸ hu)]
      by_cases hj : j = i
      · rw [if_pos (hj.trans hi.symm), if_pos (hj.trans hi'.symm), hversion]
        exact .some ((sameButNonce_recordMatch i).withVersion _ ⟨hi, hnew⟩).2
      · rw [if_neg (hi ▸ hj), if_neg (hi' ▸ hj)]
        exact h.surroundings.records j
    · intro k
      simpa using h.surroundings.keys k
  insert := by
    rintro t u r h ht hu hi
    refine h.respond rfl rfl (h.surroundings.withStore ?_ ?_)
    · intro j
      rw [Store.get?_create (hi ▸ ht), Store.get?_create (hi ▸ hu)]
      split
      · exact .some (.refl _)
      · exact h.surroundings.records j
    · intro k
      simpa using h.surroundings.keys k
  warm := by
    intro t u h _
    exact ⟨h.surroundings.found p i.keyId, h.lot, h.surroundings.warm⟩
  supply := by
    intro t u h
    exact ⟨h.lot, h.surroundings.supply⟩

/-! ## Plans that tell nothing -/

/-- The plan ends the same on stages that are equal but for secrets, and leaves
them so. -/
def Plan.Discreet {α : Type} (p : Nat) (x : Plan α) : Prop :=
  ∀ t u : Stage, t.SameButSecrets u → x.Alike p Stage.SameButSecrets t u

theorem Plan.Discreet.map {α β : Type} {x : Plan α} (h : x.Discreet p) (g : α → β) :
    (g <$> x).Discreet p := fun t u hS => (h t u hS).map g

/-- Taking stock goes the same way. -/
theorem readiness_abreast (h : t.SameButSecrets u) :
    Operation.Abreast p Stage.SameButSecrets (· = ·) Service.readiness Service.readiness t u := by
  refine .mapM h fun status t u h => ?_
  refine .ask_bind (.bind (S := Stage.SameButSecrets)
    (Q := fun rs rs' : List Record => rs'.length = rs.length) (.pure h ?_) ?_ fun _ _ h => h)
  · exact h.surroundings.length_withStatus status
  · intro rs rs' t₁ u₁ h₁ hlength
    exact .pure h₁ (by rw [hlength])

namespace Http

variable {service : Service} {errand : Errand} {callbackPaths : List String}
  {request : HttpRequest}

/-! ## Requests -/

/-- The request leads to the answer of a challenge. -/
def Errand.answersChallenge : Errand → Bool
  | called (.answerChallenge ..) _ => true
  | _ => false

/-- What the other requests lead to. -/
inductive Errand.Plain : Errand → Prop
  | answered (response : HttpResponse) : Plain (.answered response)
  | create (b : RegistrationBody) : Plain (.create b)
  | update (b : RegistrationBody) : Plain (.update b)
  | pushStatus (b : StatusBody) : Plain (.pushStatus b)
  | get (i : Identity) : Plain (.called (.get i) (resultAnswer summaryJson))
  | readiness : Plain (.called .readiness readinessAnswer)

theorem Errand.plain_lookup (path : String) : (lookup path).Plain := by
  unfold lookup
  split
  · exact .answered _
  · split
    · exact .answered _
    · exact .answered _
    · exact .get _

theorem Errand.plain_ofRead {α : Type} {errand : α → Errand} {res : Except ApiError α}
    (h : ∀ a, (errand a).Plain) : (ofRead errand res).Plain := by
  cases res with
  | ok a => exact h a
  | error e => exact .answered _

theorem Errand.plain_challenge {res : Except ApiError ChallengeBody}
    (h : (ofRead challenge res).answersChallenge = false) : (ofRead challenge res).Plain := by
  cases res with
  | ok b => cases h
  | error e => exact .answered _

theorem Errand.plain_atEndpoint {endpoint : Endpoint}
    (h : (atEndpoint request endpoint).answersChallenge = false) :
    (atEndpoint request endpoint).Plain := by
  cases endpoint with
  | health => exact .answered _
  | readiness => exact .readiness
  | create => exact plain_ofRead .create
  | update => exact plain_ofRead .update
  | pushStatus => exact plain_ofRead .pushStatus
  | lookup => exact plain_lookup request.path
  | challenge => exact plain_challenge h

theorem Errand.plain_offRoute (h : (offRoute request).answersChallenge = false) :
    (offRoute request).Plain := by
  unfold offRoute at h ⊢
  split
  · exact .answered _
  rw [if_neg ‹_›] at h
  split
  · rw [if_pos ‹_›] at h
    exact plain_challenge h
  · exact .answered _

/-- A request that leads to no answer of a challenge leads to something plain. -/
theorem Errand.plain_ofRequest (h : (ofRequest callbackPaths request).answersChallenge = false) :
    (ofRequest callbackPaths request).Plain := by
  unfold ofRequest at h ⊢
  by_cases hoptions : request.method = "OPTIONS"
  · rw [if_pos hoptions]
    exact .answered _
  rw [if_neg hoptions] at h ⊢
  cases hmethods : methodsOf callbackPaths request.path with
  | none =>
    rw [hmethods] at h
    exact plain_offRoute h
  | some methods =>
    rw [hmethods] at h
    dsimp only at h ⊢
    cases hendpoint : endpointOf methods request.method with
    | none => exact .answered _
    | some endpoint =>
      rw [hendpoint] at h
      exact plain_atEndpoint h

/-- Showing a record tells nothing. -/
theorem Errand.discreet_shown {x : Operation Record}
    (h : ∀ t u, t.SameButSecrets u → Operation.Abreast p Stage.SameButSecrets
      (fun r r' => r.identity = i ∧ r.SameButNonce r') x x t u) :
    (resultAnswer summaryJson <$> x.run).Discreet p := by
  intro t u hS
  refine .of_abreast (h t u hS) ?_
  intro a b hend
  cases hend with
  | ok hrec => simp only [resultAnswer, summaryJson, hrec.2.summary_eq]
  | error e => rfl

/-- Plain errands tell nothing. -/
theorem Errand.Plain.discreet (h : errand.Plain) : (errand.plan service).Discreet p := by
  cases h with
  | answered response => exact fun _ _ => .pure
  | create b =>
    have hm := sameButSecrets_stageMatch p b.identity
    exact discreet_shown fun _ _ hS => hm.create hS
  | update b =>
    have hm := sameButSecrets_stageMatch p b.identity
    exact discreet_shown fun _ _ hS => hm.update hS
  | pushStatus b =>
    have hm := sameButSecrets_stageMatch p b.identity
    exact discreet_shown fun _ _ hS => hm.pushStatus hS b.status
  | get i => exact discreet_shown fun _ _ hS => (sameButSecrets_stageMatch p i).get hS
  | readiness =>
    intro t u hS
    refine .of_abreast (readiness_abreast hS) ?_
    intro a b hend
    rw [hend.eq]

/-- The name of a request tells nothing. -/
theorem discreet_naming : (naming request).Discreet p := by
  intro t u hS
  unfold naming
  cases request.header? "x-request-id" with
  | some id => exact .pure hS
  | none =>
    have hlot : u.lot = { t.lot with keys := u.lot.keys } := hS.lot
    refine ⟨?_, ?_, hS.surroundings⟩
    · show u.lot.names 0 = t.lot.names 0
      rw [hlot]
    · show u.lot.after .freshName =
        { t.lot.after .freshName with keys := (u.lot.after .freshName).keys }
      rw [hlot]
      rfl

/-- Serving a request tells nothing, unless it asks for the answer of a
challenge. -/
theorem discreet_serve (h : (Errand.ofRequest callbackPaths request).answersChallenge = false) :
    (serve service callbackPaths request).Discreet p := by
  intro t u hS
  rw [serve_eq]
  exact (discreet_naming t u hS).bind fun _ t' u' hS' =>
    ((Errand.plain_ofRequest h).discreet t' u' hS').map _

end Http

/-! ## What arrives -/

open Http

/-- What arrives at the service from outside. -/
inductive Matter
  /-- A request, with the paths that take challenges. -/
  | request (callbackPaths : List String) (asked : HttpRequest)
  /-- What a round for a record came to. -/
  | outcome (r : Record) (result : Except GiveUp Ack)

namespace Matter

/-- What the service does about it, and the answer that goes out if there is
one. -/
def plan (s : Service) : Matter → Plan (Option HttpResponse)
  | request callbackPaths asked => some <$> serve s callbackPaths asked
  | outcome r result => (fun _ => none) <$> (Service.conclude r result).run

/-- It asks for the answer of a challenge. -/
def asksAnswer : Matter → Bool
  | request callbackPaths asked => (Errand.ofRequest callbackPaths asked).answersChallenge
  | outcome .. => false

/-- What the service does tells nothing, unless the answer of a challenge is asked
for. -/
theorem discreet_plan {m : Matter} (h : m.asksAnswer = false) (service : Service) (p : Nat) :
    (m.plan service).Discreet p := by
  cases m with
  | request callbackPaths asked => exact (discreet_serve h).map _
  | outcome r result =>
    intro t u hS
    refine .of_abreast ((sameButSecrets_stageMatch p r.identity).conclude hS rfl result) ?_
    intro a b _
    rfl

end Matter

/-- Something arrives at a process. -/
structure Arrival where
  /-- The process. -/
  process : Nat
  /-- What it was started with. -/
  service : Service
  /-- What arrives. -/
  matter : Matter
  /-- What is drawn for it. -/
  lot : Lot

/-- The same arrives, and the same is drawn but for keysets. -/
structure Arrival.SameButKeys (a a' : Arrival) : Prop where
  process : a'.process = a.process
  service : a'.service = a.service
  matter : a'.matter = a.matter
  lot : a.lot.SameButKeys a'.lot

/-- One after another arrives: the answers that go out, and what is there then. -/
def Surroundings.receive (s : Surroundings) : List Arrival → List HttpResponse × Surroundings
  | [] => ([], s)
  | a :: rest =>
    let (answer, t) := (a.matter.plan a.service).solo a.process ⟨a.lot, s⟩
    let (answers, s') := t.surroundings.receive rest
    (answer.toList ++ answers, s')

/-- **Secrets do not reach answers.**  Whatever arrives, in whatever order, the
answers are the same whether or not there are answers to challenges with records,
and whatever the keysets are; and nothing else ever depends on these. -/
theorem Surroundings.SameButSecrets.answers_eq (h : s.SameButSecrets s') {as as' : List Arrival}
    (ha : List.Forall₂ Arrival.SameButKeys as as')
    (hopen : ∀ a ∈ as, a.matter.asksAnswer = false) :
    (s'.receive as').1 = (s.receive as).1 ∧
      (s.receive as).2.SameButSecrets (s'.receive as').2 := by
  -- What has gone by leaves both sides equal but for secrets, and that is all the
  -- rest needs.
  induction ha generalizing s s' with
  | nil => exact ⟨rfl, h⟩
  | @cons a a' as as' hsame _ ih =>
    have hdiscreet := Matter.discreet_plan (hopen a List.mem_cons_self) a.service a.process
      ⟨a.lot, s⟩ ⟨a'.lot, s'⟩ ⟨hsame.lot, h⟩
    obtain ⟨hanswer, hS⟩ := hdiscreet
    obtain ⟨hanswers, hrest⟩ := ih hS.surroundings fun b hb => hopen b (List.mem_cons_of_mem a hb)
    simp only [Surroundings.receive, hsame.process, hsame.service, hsame.matter]
    exact ⟨by rw [hanswer, hanswers], hrest⟩

/-! ## A registration that is challenged -/

namespace Surroundings

/-- The registry challenges the only registration there is, and no process has a
keyset at hand. -/
def challenged (nonce : Option String) (keys : Keyset) : Surroundings where
  store :=
    { records := [{ Record.fresh sampleIdentity "BAP" (.plain "https://host" "domain") .epoch with
        status := .underSubscription, nonce := nonce, version := 2 }]
      keysets := [("key", keys)]
      distinct := List.nodup_singleton _
      distinctKeys := List.nodup_singleton _ }
  processes := [⟨.sample, []⟩]

/-- Neither what the challenge was answered nor the keyset can be told. -/
theorem sameButSecrets_challenged {nonce nonce' : Option String} {keys keys' : Keyset} :
    (challenged nonce keys).SameButSecrets (challenged nonce' keys') where
  records := by
    intro i
    by_cases hi : sampleIdentity = i
    · subst hi
      exact .some ⟨rfl, fun h => absurd rfl h⟩
    · simp [Store.get?, challenged, Record.fresh, hi]
  keys := by
    intro k
    by_cases hk : k = "key"
    · subst hk
      rfl
    · simp [Store.keys?, challenged, List.lookup_cons, beq_eq_false_iff_ne.2 hk]
  processes := rfl
  atHand := fun _ _ => rfl

/-- The registration is looked at, a status is pushed, and stock is taken. -/
def visits (keys : Keyset) : List Arrival :=
  [⟨0, .sample, .request [] ⟨"GET", "/subscriptions/subscriber/key", [], []⟩, .sample keys⟩,
    ⟨0, .sample, .request [] ⟨"POST", "/updateStatus", [("content-type", "application/json")],
      Text.bytesOf
        "\x7b\"subscriber_id\":\"subscriber\",\"key_id\":\"key\",\"status\":\"SUBSCRIBED\"\x7d"⟩,
      .sample keys⟩,
    ⟨0, .sample, .request [] ⟨"GET", "/ready", [], []⟩, .sample keys⟩]

/-- All of it succeeds, and the answers are the same with another keyset and no
answer to the challenge. -/
theorem answers_challenged : ∃ (s s' : Surroundings) (as as' : List Arrival),
    s.store.get? sampleIdentity ≠ s'.store.get? sampleIdentity ∧
    s.store.keys? "key" ≠ s'.store.keys? "key" ∧ s.SameButSecrets s' ∧
    List.Forall₂ Arrival.SameButKeys as as' ∧ (∀ a ∈ as, a.matter.asksAnswer = false) ∧
    (s.receive as).1.map (·.status) = [200, 200, 200] ∧ (s'.receive as').1 = (s.receive as).1 ∧
      (s.receive as).2.SameButSecrets (s'.receive as').2 := by
  have hvisits : List.Forall₂ Arrival.SameButKeys (visits ⟨[3], [3]⟩) (visits ⟨[4], [4]⟩) :=
    .cons ⟨rfl, rfl, rfl, rfl⟩ (.cons ⟨rfl, rfl, rfl, rfl⟩ (.cons ⟨rfl, rfl, rfl, rfl⟩ .nil))
  have hopen : ∀ a ∈ visits ⟨[3], [3]⟩, a.matter.asksAnswer = false := by decide +kernel
  have hsame : (challenged (some "answer") ⟨[1], [1]⟩).SameButSecrets
      (challenged none ⟨[2], [2]⟩) := sameButSecrets_challenged
  refine ⟨_, _, _, _, ?_, ?_, hsame, hvisits, hopen, ?_, hsame.answers_eq hvisits hopen⟩
  · intro h
    have hnonce := congrArg (·.bind Record.nonce) h
    cases hnonce
  · decide
  · decide +kernel

end Surroundings

end Enrolment
