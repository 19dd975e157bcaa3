import Enrolment.Proofs.Conduct.Revise

/-!
# How rounds run

A round talks to the registry without meeting the records, until the registry
acknowledges, refuses for good, or was asked too often.  Only then the round
meets the record, to store what the registry said.

## Main definitions

* `Reported` — the registry said so to the round.
* `Concluded` — the last access tells how a round ended.

## Main statements

* `Service.upholds_callRegistry` — one call, signed if it has to be.
* `Service.upholds_register` — a round ends as the registry reported.
-/

namespace Enrolment

variable {task : Task} {past : List Occurrence}

/-- The registry answered a call of the task. -/
def Heard (task : Task) (past : List Occurrence) (reply : Except RegistryError Ack) : Prop :=
  ∃ request authorization, .answered task (.call request authorization) reply ∈ past

theorem Heard.mono {reply : Except RegistryError Ack} {later : List Occurrence}
    (h : Heard task past reply) (hs : past <:+ later) : Heard task later reply := by
  obtain ⟨request, authorization, hmem⟩ := h
  exact ⟨request, authorization, hs.subset hmem⟩

/-- The registry said what the calls of a task came to. -/
def Reported (task : Task) (past : List Occurrence) : Except GiveUp Ack → Prop
  | .ok ack => Heard task past (.ok ack)
  | .error (.definitive e) => e.isRetryable = false ∧ Heard task past (.error e)
  | .error (.exhausted _ e) => e.isRetryable = true ∧ Heard task past (.error e)

theorem conclude_of_ending {r : Record} {outcome : Except GiveUp Ack} {change : Change}
    (h : ending r outcome = .ok change) :
    Service.conclude r outcome = revise r.identity change := by
  rcases outcome with (_ | _) | _ <;> cases h <;> rfl

theorem Reported.mono {outcome : Except GiveUp Ack} {later : List Occurrence}
    (h : Reported task past outcome) (hs : past <:+ later) : Reported task later outcome := by
  rcases outcome with (⟨attempts, e⟩ | e) | ack
  · exact ⟨h.1, h.2.mono hs⟩
  · exact ⟨h.1, h.2.mono hs⟩
  · exact Heard.mono h hs

/-- A round changes the record only if it waits for this very round. -/
theorem revision_of_ending {r : Record} {kind : RoundKind} {outcome : Except GiveUp Ack}
    {change : Change} {now : Moment} {current next : Record} (hc : task.call = .register r kind)
    (hr : Reported task past outcome) (he : ending r outcome = .ok change)
    (hi : current.identity = r.identity) (h : change now current = .ok (some next)) :
    Revision task past current next := by
  rcases outcome with (⟨attempts, e⟩ | e) | ack <;> cases he
  · obtain ⟨hin, hch⟩ := inRound_eq_some_iff.1 h
    obtain ⟨hedge, rfl⟩ := follow_eq_some_iff.1 hch
    have hv : r.version = current.version :=
      Record.version_eq_of_mayBeIn hin (hedge.eq_initiated (.inr rfl))
    obtain ⟨hd, request, authorization, heard⟩ := hr
    exact .rejected hc hi.symm hv hd heard hedge
  · obtain ⟨hin, hch⟩ := inRound_eq_some_iff.1 h
    obtain ⟨hedge, rfl⟩ := acknowledge_eq_some_iff.1 hch
    have hv : r.version = current.version :=
      Record.version_eq_of_mayBeIn hin (hedge.eq_initiated (.inl rfl))
    obtain ⟨request, authorization, heard⟩ := hr
    exact .accepted hc hi.symm hv heard hedge

/-- The last access of a round tells its result, given what its calls came
to. -/
def Concluded (k : Nat) (r : Record) (past : List Occurrence) (outcome : Except GiveUp Ack)
    (res : Except ServiceError Record) : Prop :=
  match ending r outcome with
  | .ok change => Settled k r.identity change past res
  | .error e => Uncommitted k past ∧ res = .error (.noAnswer e)

namespace Service

/-- One call to the registry for a key that has a keyset; it is signed if it has
to be. -/
theorem upholds_callRegistry {request : Request} {kind : RoundKind} {keys : Keyset}
    (hk : keysAfter request.identity.keyId past = some keys) :
    (callRegistry request kind).Upholds task Proper (fun reply past' =>
      Quiet task.number past past' ∧ Heard task past' reply) past := by
  have hcall (later : List Occurrence) (authorization : Option String)
      (hq : Quiet task.number past later) :
      (Plan.ask (.call request authorization)).Upholds task Proper (fun reply past' =>
        Quiet task.number past past' ∧ Heard task past' reply) later :=
    Plan.Upholds.ask fun past₁ h₁ _ reply _ =>
      ⟨trivial, hq.answered h₁ rfl, request, authorization, List.mem_cons_self⟩
  cases kind with
  | initial => exact hcall past none (.refl past)
  | update =>
    refine Plan.Upholds.bind (Plan.Upholds.ask (Q := fun _ past' => Quiet task.number past past')
      fun past₁ h₁ _ now _ => ⟨trivial, (Since.refl past).answered h₁ rfl⟩) ?_
    intro now past₁ s₁ q₁
    refine Plan.Upholds.bind (Keys.upholds_authorize (keysAfter_mono s₁ hk)).run ?_
    rintro res past₂ - ⟨q₂, rfl⟩
    exact hcall past₂ (some _) (q₁.trans q₂)

/-- The pause between two calls. -/
theorem upholds_pauseAfter {retry : Backoff} {attempt : Nat} :
    (pauseAfter retry attempt).Upholds task Proper
      (fun _ past' => Quiet task.number past past') past := by
  have hpause (later : List Occurrence) (drawn : Nat) (hq : Quiet task.number past later) :
      (Plan.ask (.pause (retry.delay attempt drawn))).Upholds task Proper
        (fun _ past' => Quiet task.number past past') later :=
    Plan.Upholds.ask fun past₁ h₁ _ _ _ => ⟨trivial, hq.answered h₁ rfl⟩
  unfold pauseAfter
  by_cases hmost : retry.maxJitter attempt = 0
  · simp only [hmost, if_true]
    exact hpause past 0 (.refl past)
  · simp only [hmost, if_false]
    refine Plan.Upholds.bind (Plan.Upholds.ask (Q := fun _ past' => Quiet task.number past past')
      fun past₁ h₁ _ drawn _ => ⟨trivial, (Since.refl past).answered h₁ rfl⟩) ?_
    exact fun drawn past₁ _ q₁ => hpause past₁ drawn q₁

/-- Calls until one tells the end. -/
theorem upholds_runFrom {retry : Backoff} {request : Request} {kind : RoundKind} {keys : Keyset}
    {attempt left : Nat} (hk : keysAfter request.identity.keyId past = some keys) :
    (Backoff.runFrom (pauseAfter retry) (fun _ => callRegistry request kind) attempt
      left).Upholds task Proper (fun outcome past' =>
        Quiet task.number past past' ∧ Reported task past' outcome) past := by
  induction left generalizing attempt past with
  | zero =>
    refine Plan.Upholds.bind (upholds_callRegistry hk) ?_
    rintro (e | ack) past₁ - ⟨q₁, heard⟩
    · by_cases hr : e.isRetryable = true
      · simp only [hr, if_true]
        exact ⟨q₁, hr, heard⟩
      · simp only [hr]
        exact ⟨q₁, by simpa using hr, heard⟩
    · exact ⟨q₁, heard⟩
  | succ left ih =>
    refine Plan.Upholds.bind (upholds_callRegistry hk) ?_
    rintro (e | ack) past₁ s₁ ⟨q₁, heard⟩
    · by_cases hr : e.isRetryable = true
      · simp only [hr, if_true]
        refine Plan.Upholds.bind upholds_pauseAfter ?_
        intro _ past₂ s₂ q₂
        refine (ih (keysAfter_mono (s₁.trans s₂) hk)).mono ?_
        rintro outcome past₃ - ⟨q₃, hout⟩
        exact ⟨(q₁.trans q₂).trans q₃, hout⟩
      · simp only [hr]
        exact ⟨q₁, by simpa using hr, heard⟩
    · exact ⟨q₁, heard⟩

/-- The end of a round stores what the registry reported. -/
theorem upholds_conclude {r : Record} {kind : RoundKind} {outcome : Except GiveUp Ack}
    (hc : task.call = .register r kind) (hu : Uncommitted task.number past)
    (hr : Reported task past outcome) :
    (conclude r outcome).Upholds task Proper
      (fun res past' => Reported task past' outcome ∧
        Concluded task.number r past' outcome res) past := by
  cases he : ending r outcome with
  | error e =>
    rcases outcome with (⟨attempts, e⟩ | e) | ack <;> cases he
    exact Operation.Upholds.throw ⟨hr, hu, rfl⟩
  | ok change =>
    rw [conclude_of_ending he]
    simp only [Concluded, he]
    refine (upholds_revise hu ?_).mono fun res later hs hset => ⟨hr.mono hs, hset⟩
    intro later now current next hs _ hmem hch
    exact revision_of_ending hc (hr.mono hs) he (identity_of_mem_writes hmem) hch

/-- A round ends as the registry reported. -/
theorem upholds_register {s : Service} {r : Record} {kind : RoundKind} {keys : Keyset}
    (hc : task.call = .register r kind) (hu : Uncommitted task.number past)
    (hk : keysAfter r.identity.keyId past = some keys) :
    (s.register r kind).Upholds task Proper (fun res past' =>
      ∃ outcome, Reported task past' outcome ∧ Concluded task.number r past' outcome res) past := by
  refine Operation.Upholds.bind (Keys.upholds_publicKeys hk) ?_ ?_
  · rintro publicKeys past₁ s₁ ⟨q₁, -⟩
    apply Operation.Upholds.ask_bind
    intro past₂ h₂ _ messageId _
    refine ⟨trivial, ?_⟩
    have q₂ : Quiet task.number past (.answered task .freshName messageId :: past₂) :=
      q₁.answered h₂ rfl
    refine Operation.Upholds.lift_bind (upholds_runFrom (keysAfter_mono q₂.suffix hk)) ?_
    · rintro outcome past₃ - ⟨q₃, hout⟩
      refine (upholds_conclude hc (hu.quiet (q₂.trans q₃)) hout).mono ?_
      exact fun res later _ hres => ⟨outcome, hres⟩
  · rintro e past₁ - ⟨-, hres⟩
    cases hres

end Service

end Enrolment
