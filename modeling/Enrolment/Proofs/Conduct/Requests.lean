import Enrolment.Proofs.Course

/-!
# What is asked of the registry

Only rounds speak to the registry.  The requests of a round are for its record
and carry the public keys of the keyset that is stored for its key; a further
registration is signed with that keyset, at the moment of the call.

## Main definitions

* `RoundKind.header` — the header of the requests of a round.
* `Requested` — the guarantee that a request is one for a record.
* `Guarantee.AboutRequests` — a guarantee about requests only.

## Main statements

* `World.Reachable.guaranteed` — what the calls of rounds guarantee holds of every
  request in a run.
* `World.Reachable.requested` — every request is one for its record.
-/

namespace Enrolment

/-- The header of a request in a round of the kind, signed with a keyset at a
moment. -/
def RoundKind.header (kind : RoundKind) (request : Request) (keys : Keyset) (now : Int) :
    Option String :=
  match kind with
  | .initial => none
  | .update => some (Authorization.make request.identity now
      (keys.sign (Authorization.message now request.body))).text

/-- The request is one for a record, with the public keys and the signature of a
keyset. -/
def Request.IsFor (request : Request) (authorization : Option String) (r : Record)
    (kind : RoundKind) (keys : Keyset) : Prop :=
  ∃ messageId now, request = .ofRecord r keys.publicKeys messageId ∧
    authorization = kind.header request keys now

/-- A request is made by a round, for its record and with the keyset of its
key. -/
def Requested : Guarantee
  | .answered task (.call request authorization) _, past => ∃ r kind keys,
    task.call = .register r kind ∧ keysAfter r.identity.keyId past = some keys ∧
      request.IsFor authorization r kind keys
  | _, _ => True

/-- A guarantee that asks something of requests only. -/
def Guarantee.AboutRequests (G : Guarantee) : Prop :=
  ∀ task ask reply past, (∀ request authorization, ask ≠ .call request authorization) →
    G (.answered task ask reply) past

theorem aboutRequests_requested : Requested.AboutRequests := by
  intro task ask reply past h
  cases ask with
  | call request authorization => exact absurd rfl (h request authorization)
  | _ => exact trivial

variable {task : Task} {past : List Occurrence} {G : Guarantee}

theorem Guarantee.AboutRequests.of_isLocal (hG : G.AboutRequests) {ask : Ask}
    (h : ask.isLocal = true) (reply : ask.Reply) (past : List Occurrence) :
    G (.answered task ask reply) past := by
  apply hG
  rintro request authorization rfl
  cases h

/-- An operation that asks locally meets a guarantee about requests. -/
theorem Operation.Local.upholds_of_aboutRequests {α : Type} {x : Operation α}
    {Q : Except ServiceError α → List Occurrence → Prop} (hx : x.Local) (hG : G.AboutRequests)
    (h : x.Upholds task Proper Q past) : x.Upholds task G Q past :=
  hx.guarded h fun _ reply past' ha => hG.of_isLocal ha reply past'

namespace Service

/-- The calls of a round, if each of them meets the guarantee. -/
theorem upholds_calls {retry : Backoff} {call : Nat → Plan (Except RegistryError Ack)}
    {attempt left : Nat} (hG : G.AboutRequests)
    (hcall : ∀ n past', past <:+ past' → (call n).Upholds task G (fun _ _ => True) past') :
    (Backoff.runFrom (pauseAfter retry) call attempt left).Upholds task G (fun _ _ => True)
      past := by
  induction left generalizing attempt past with
  | zero =>
    refine Plan.Upholds.bind (hcall attempt past List.suffix_rfl) ?_
    rintro (e | ack) past₁ - - <;> exact trivial
  | succ left ih =>
    refine Plan.Upholds.bind (hcall attempt past List.suffix_rfl) ?_
    rintro (e | ack) past₁ s₁ -
    · by_cases hr : e.isRetryable = true
      · simp only [hr, if_true]
        refine Plan.Upholds.bind ((local_pauseAfter retry attempt).upholds
          fun _ reply past' ha => hG.of_isLocal ha reply past') ?_
        intro _ past₂ s₂ _
        exact ih fun n past' hs => hcall n past' (s₁.trans (s₂.trans hs))
      · simp only [hr]
        exact trivial
    · exact trivial

/-- A round meets a guarantee about requests if each of its calls does, with the
keyset of its key. -/
theorem upholds_requests {s : Service} {r : Record} {kind : RoundKind} {keys : Keyset}
    (hG : G.AboutRequests) (hk : keysAfter r.identity.keyId past = some keys)
    (hcall : ∀ messageId past', past <:+ past' →
      (callRegistry (.ofRecord r keys.publicKeys messageId) kind).Upholds task G (fun _ _ => True)
        past') :
    (s.register r kind).Upholds task G (fun _ _ => True) past := by
  refine Operation.Upholds.bind ((Keys.local_publicKeys _).upholds_of_aboutRequests hG
    (Keys.upholds_publicKeys hk)) ?_ fun _ _ _ _ => trivial
  rintro publicKeys past₁ s₁ ⟨-, hres⟩
  cases hres
  apply Operation.Upholds.ask_bind
  intro past₂ h₂ _ messageId _
  refine ⟨hG.of_isLocal rfl messageId past₂, ?_⟩
  have s₂ : past <:+ .answered task .freshName messageId :: past₂ :=
    s₁.trans (h₂.suffix.trans (List.suffix_cons _ past₂))
  refine Operation.Upholds.lift_bind
    (upholds_calls hG fun _ past' hs => hcall messageId past' (s₂.trans hs)) ?_
  intro outcome past₃ _ _
  exact (local_conclude r outcome).upholds
    fun _ reply past' ha => hG.of_isLocal ha reply past'

/-- Every call meets a guarantee about requests if the calls of rounds do. -/
theorem Call.upholds_requests {c : Service.Call} (hc : task.call = c) (hG : G.AboutRequests)
    (hcall : ∀ r kind keys messageId past', task.call = .register r kind →
      keysAfter r.identity.keyId past' = some keys →
        (callRegistry (.ofRecord r keys.publicKeys messageId) kind).Upholds task G
          (fun _ _ => True) past') (h : Chronicle past) (ha : World.Admits past c) :
    (c.operation task.service).Upholds task G (fun _ _ => True) past := by
  have hsettles (hr : c.isRound = false) :
      (c.operation task.service).Upholds task G (fun _ _ => True) past := by
    refine (settles_operation task.service hr).asks.upholds ?_
    intro ask reply past' hask
    apply hG
    rintro request authorization rfl
    rcases hask with hlocal | hstarts <;> contradiction
  cases c with
  | register r kind =>
    obtain ⟨keys, hk⟩ := h.exists_keys ha
    exact Service.upholds_requests hG hk fun messageId past' hs =>
      hcall r kind keys messageId past' hc (keysAfter_mono hs hk)
  | _ => exact hsettles rfl

/-- The calls of a round are for its record and use the keyset of its key. -/
theorem requested_callRegistry {r : Record} {kind : RoundKind} {keys : Keyset}
    {messageId : String} (hc : task.call = .register r kind)
    (hk : keysAfter r.identity.keyId past = some keys) :
    (callRegistry (.ofRecord r keys.publicKeys messageId) kind).Upholds task Requested
      (fun _ _ => True) past := by
  cases kind with
  | initial =>
    intro past₁ h₁ _ reply _
    exact ⟨⟨r, .initial, keys, hc, keysAfter_mono h₁.suffix hk, messageId, 0, rfl, rfl⟩, trivial⟩
  | update =>
    refine Plan.Upholds.bind (Q := fun _ _ => True)
      (Plan.Upholds.ask fun _ _ _ _ _ => ⟨trivial, trivial⟩) ?_
    intro now past₁ s₁ _
    refine Plan.Upholds.bind ((Keys.local_authorize _ _ _).upholds_of_aboutRequests
      aboutRequests_requested (Keys.upholds_authorize (keysAfter_mono s₁ hk))).run ?_
    rintro res past₂ s₂ ⟨-, rfl⟩ past₃ h₃ _ reply _
    refine ⟨⟨r, .update, keys, hc, ?_, messageId, now.unixSeconds, rfl, rfl⟩, trivial⟩
    exact keysAfter_mono (s₁.trans (s₂.trans h₃.suffix)) hk

end Service

namespace World

variable {w : World}

/-- The request was made, whether it was answered or not. -/
def Requests (w : World) (task : Task) (past : List Occurrence) (request : Request)
    (authorization : Option String) : Prop :=
  (∃ reply, (.answered task (.call request authorization) reply :: past) <:+ w.past) ∨
    (past = w.past ∧ ∃ next, ⟨task, .step (.call request authorization) next⟩ ∈ w.running)

/-- What was answered to a task meets a guarantee that its call meets from the
beginning on. -/
theorem Reachable.of_answered (h : w.Reachable) (hplan : ∀ {before},
      Chronicle (.begun task :: before) →
        (task.call.operation task.service).Upholds task G (fun _ _ => True) (.begun task :: before))
    {ask : Ask} {reply : ask.Reply} {earlier : List Occurrence}
    (hs : (.answered task ask reply :: earlier) <:+ w.past) :
    G (.answered task ask reply) earlier := by
  obtain ⟨running, hmem, rfl⟩ := List.mem_map.1 (h.sound.known _ (hs.subset List.mem_cons_self))
  have hmet := (h.course hmem).upholds (Q := fun _ _ => True) h.sound.chronicle
    (fun before hs => (hplan (h.sound.chronicle.of_suffix hs)).run) fun _ _ _ _ _ => trivial
  exact hmet.2 _ reply earlier hs

/-- So does a request, whether it was answered or not. -/
theorem Reachable.of_requests (h : w.Reachable) (hplan : ∀ {before},
      Chronicle (.begun task :: before) →
        (task.call.operation task.service).Upholds task G (fun _ _ => True) (.begun task :: before))
    {earlier : List Occurrence} {request : Request} {authorization : Option String}
    (hr : w.Requests task earlier request authorization) :
    ∃ reply, G (.answered task (.call request authorization) reply) earlier := by
  have hchron := h.sound.chronicle
  rcases hr with ⟨reply, hs⟩ | ⟨rfl, next, hmem⟩
  · exact ⟨reply, h.of_answered hplan hs⟩
  · have hnext := ((h.course hmem).upholds (Q := fun _ _ => True) hchron
      (fun before hs => (hplan (hchron.of_suffix hs)).run) fun _ _ _ _ _ => trivial).1
    exact ⟨.ok ⟨"", ""⟩, (hnext w.past (.refl w.past) hchron (.ok ⟨"", ""⟩) trivial).1⟩

/-- Every request of a run meets a guarantee about requests that the calls of
rounds meet. -/
theorem Reachable.guaranteed (h : w.Reachable) (hG : G.AboutRequests)
    (hcall : ∀ {task r kind keys} messageId past', task.call = .register r kind →
      keysAfter r.identity.keyId past' = some keys →
        (Service.callRegistry (.ofRecord r keys.publicKeys messageId) kind).Upholds task G
          (fun _ _ => True) past')
    {earlier : List Occurrence} {request : Request} {authorization : Option String}
    (hr : w.Requests task earlier request authorization) :
    ∃ reply, G (.answered task (.call request authorization) reply) earlier := by
  refine h.of_requests (fun hbegun => ?_) hr
  exact Service.Call.upholds_requests rfl hG
    (fun _ _ _ messageId past' hc hk => hcall messageId past' hc hk) hbegun (Course.admits hbegun)

/-- Only rounds speak to the registry, each for its record and with the keyset
that is stored for its key. -/
theorem Reachable.requested (h : w.Reachable) {earlier : List Occurrence} {request : Request}
    {authorization : Option String} (hr : w.Requests task earlier request authorization) :
    ∃ r kind keys, task.call = .register r kind ∧
      keysAfter r.identity.keyId earlier = some keys ∧
        request.IsFor authorization r kind keys := by
  obtain ⟨_, hrequested⟩ := h.guaranteed aboutRequests_requested
    (fun _ _ hc hk => Service.requested_callRegistry hc hk) hr
  exact hrequested

end World

end Enrolment
