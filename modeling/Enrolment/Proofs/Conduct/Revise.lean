import Enrolment.Proofs.Conduct.Keys

/-!
# How records are changed

A change of a record is tried until it is stored, is not needed, fails, or was
tried too often.  Unless it was tried too often, the last access alone tells
what it ends with: the verdict on the record that was stored then.

## Main definitions

* `Settled` — the last access tells the result of a change.

## Main statements

* `follow_eq_some_iff`, `makeAgain_eq_some_iff`, `keepAnswer_eq_some_iff`,
  `acknowledge_eq_some_iff`, `inRound_eq_some_iff` — what the changes return.
* `upholds_revise` — the last access tells the result.
-/

namespace Enrolment

/-! ## Changes -/

section Changes

variable {r next : Record} {now : Moment} {source status : Status} {event : Event}

/-- The status that an event leads to wherever it is permitted. -/
def Event.target : Event → Status
  | accepted | challenged => .underSubscription
  | rejected => .invalid
  | pushed target => target
  | reRegistered => .initiated

theorem Edge.eq_target (h : Edge source event status) : status = event.target := by
  cases h <;> rfl

/-- The registry's answer moves a record that waits for it. -/
theorem Edge.eq_initiated (h : Edge source event status)
    (he : event = .accepted ∨ event = .rejected) : source = .initiated := by
  cases h <;> simp_all

theorem permit_eq_advance_iff : permit source event = .ok (.advance status) ↔
    Edge source event status := by
  rw [← react_eq_advance_iff]
  unfold permit
  cases react source event <;> simp [Except.mapError]

/-- A change that an event decides is made along an edge. -/
theorem bind_permit_eq_some_iff {f : Outcome → Except ServiceError (Option Record)}
    (hf : f .ignore = .ok none) : permit source event >>= f = .ok (some next) ↔
      Edge source event event.target ∧ f (.advance event.target) = .ok (some next) := by
  constructor
  · intro h
    cases hp : permit source event with
    | error e => simp [hp, bind, Except.bind] at h
    | ok outcome =>
      rw [hp] at h
      cases outcome with
      | advance status =>
        have he : Edge source event status := permit_eq_advance_iff.1 hp
        obtain rfl := he.eq_target
        exact ⟨he, h⟩
      | ignore => simp [bind, Except.bind, hf] at h
  · rintro ⟨he, h⟩
    rw [permit_eq_advance_iff.2 he]
    exact h

theorem follow_eq_some_iff : follow event now r = .ok (some next) ↔
    Edge r.status event event.target ∧ r.withStatus event.target now = next := by
  rw [follow, bind_permit_eq_some_iff rfl]
  simp [pure, Except.pure]

theorem makeAgain_eq_some_iff {role : String} {payload : Payload} :
    makeAgain role payload now r = .ok (some next) ↔
      Edge r.status .reRegistered .initiated ∧
        { r.withStatus .initiated now with
          role := role, payload := payload, messageId := none } = next := by
  rw [makeAgain, bind_permit_eq_some_iff rfl]
  simp [Event.target, pure, Except.pure]

theorem keepAnswer_eq_some_iff {answer : String} :
    keepAnswer answer now r = .ok (some next) ↔
      Edge r.status .challenged .underSubscription ∧
        ¬(r.status = .underSubscription ∧ r.nonce = some answer) ∧
        { r.withStatus .underSubscription now with nonce := some answer } = next := by
  rw [keepAnswer, bind_permit_eq_some_iff rfl]
  by_cases hn : r.status = .underSubscription ∧ r.nonce = some answer <;>
    simp [Event.target, pure, Except.pure, hn]

theorem acknowledge_eq_some_iff {ack : Ack} :
    acknowledge ack now r = .ok (some next) ↔
      Edge r.status .accepted .underSubscription ∧
        { r.withStatus .underSubscription now with messageId := some ack.messageId } = next := by
  unfold acknowledge
  cases hf : follow .accepted now r with
  | error e =>
    have hno : ¬Edge r.status .accepted .underSubscription := fun he => by
      simp [follow_eq_some_iff.2 ⟨he, rfl⟩] at hf
    simp [hno, bind, Except.bind]
  | ok found =>
    cases found with
    | some moved =>
      obtain ⟨he, rfl⟩ := follow_eq_some_iff.1 hf
      have he' : Edge r.status .accepted .underSubscription := he
      simp [he', Event.target, bind, Except.bind, pure, Except.pure]
    | none =>
      have hno : ¬Edge r.status .accepted .underSubscription := fun he => by
        simp [follow_eq_some_iff.2 ⟨he, rfl⟩] at hf
      simp [hno, bind, Except.bind, pure, Except.pure]

theorem Record.make_eq_ok_iff {i : Identity} {role : String} {payload : Payload} :
    Record.make i role payload now = .ok r ↔
      (i.check = .ok () ∧ checkRole role = .ok () ∧ payload.check = .ok ()) ∧
        Record.fresh i role payload now = r := by
  unfold Record.make
  cases i.check <;> cases checkRole role <;> cases payload.check <;>
    simp [bind, Except.bind, pure, Except.pure]

theorem inRound_eq_some_iff {round : Nat} {change : Change} :
    inRound round change now r = .ok (some next) ↔
      r.mayBeIn round = true ∧ change now r = .ok (some next) := by
  unfold inRound
  split <;> simp_all

/-- A record that waits for the registry is in the round of its version. -/
theorem Record.version_eq_of_mayBeIn {round : Nat} (h : r.mayBeIn round = true)
    (hs : r.status = .initiated) : round = r.version := by
  simp only [mayBeIn, hs] at h
  simpa [eq_comm] using h

end Changes

/-! ## Revisions -/

/-- The last access of a task tells the result of its change: it comes to that,
given the record that was stored then.  Otherwise the change was tried too
often. -/
inductive Settled (k : Nat) (i : Identity) (change : Change) (past : List Occurrence) :
    Except ServiceError Record → Prop
  /-- The last access decided. -/
  | told {o : Occurrence} {earlier : List Occurrence} (now : Moment)
      {res : Except ServiceError Record} (ha : lastAccess k past = some (o, earlier))
      (hp : o.isPart = true) (hc : Chronicle earlier)
      (hv : change.verdict i now (recordAfter i earlier) = ⟨res, o.written?⟩) :
      Settled k i change past res
  /-- Others were always faster. -/
  | lost (hu : Uncommitted k past) :
      Settled k i change past (.error (.storage (.contention i maxRounds)))

section Revise

variable {task : Task} {i : Identity} {change : Change} {past : List Occurrence}

/-- What the last access told stays true while the task meets no records. -/
theorem Settled.quiet {k : Nat} {res : Except ServiceError Record} {later : List Occurrence}
    (h : Settled k i change past res) (hq : Quiet k past later) : Settled k i change later res := by
  cases h with
  | told now ha hp hc hv => exact .told now (lastAccess_of_quiet hq ▸ ha) hp hc hv
  | lost hu => exact .lost (hu.quiet hq)

/-- A record that a change comes to is stored, or it is written. -/
theorem Change.verdict_ok {now : Moment} {stored wrote : Option Record} {r : Record}
    (h : change.verdict i now stored = ⟨.ok r, wrote⟩) : stored = some r ∨ wrote = some r := by
  unfold Change.verdict at h
  cases stored with
  | none => cases h
  | some current =>
    cases hch : change now current with
    | error e => simp [hch, Verdict.fails] at h
    | ok next =>
      cases next with
      | none =>
        rw [Verdict.given_some, hch] at h
        cases h
        exact .inl rfl
      | some next =>
        rw [Verdict.given_some, hch] at h
        cases h
        exact .inr rfl

/-- A record that a change ends with was written. -/
theorem Settled.mem_written {k : Nat} {r : Record} (h : Settled k i change past (.ok r)) :
    r ∈ written past := by
  cases h with
  | @told o earlier _ _ ha _ _ hv =>
    rcases Change.verdict_ok hv with hcur | hw
    · have hmem := (mem_writes_iff.1 (mem_writes_of_recordAfter hcur)).1
      exact written_mono ((List.suffix_cons o earlier).trans (lastAccess_suffix ha)) hmem
    · refine written_mono (lastAccess_suffix ha) ?_
      simp [written, hw]

/-- An access that wrote nothing, and what others did after it. -/
theorem lastAccess_answered {ask : Ask} {reply : ask.Reply} {later : List Occurrence}
    (ha : ask.isAccess = true)
    (hq : Quiet task.number (.answered task ask reply :: past) later) :
    lastAccess task.number later = some (.answered task ask reply, past) := by
  rw [lastAccess_of_quiet hq]
  exact lastAccess_cons_self (o := .answered task ask reply) ha

/-- A task whose last access told an error, or looked at a record, has written
none. -/
theorem uncommitted_of_answered {ask : Ask} {reply : ask.Reply} {later : List Occurrence}
    (ha : ask.isAccess = true) (hw : Occurrence.stored? ask reply = none)
    (hq : Quiet task.number (.answered task ask reply :: past) later) :
    Uncommitted task.number later := by
  intro o earlier ho
  rw [lastAccess_answered ha hq] at ho
  cases ho
  exact hw

/-- The replacement of a record that was looked at settles the change, unless
somebody else was faster. -/
private theorem upholds_replace {current next : Record} {now : Moment} {retry : Operation Record}
    (hu : Uncommitted task.number past) (hmem : current ∈ writes i past)
    (hch : change now current = .ok (some next))
    (hrev : ∀ later, past <:+ later → Chronicle later → Revision task later current next)
    (hretry : ∀ later, past <:+ later → Uncommitted task.number later →
      retry.Upholds task Proper (fun res later => Settled task.number i change later res) later) :
    Operation.Upholds task Proper (fun res later => Settled task.number i change later res)
      (do
        match ← Operation.ask (.replace next current.version) with
        | .ok stored => return stored
        | .error (.versionConflict _ _) => retry
        | .error e => throw (.ofStore e)) past := by
  apply Operation.Upholds.ask_bind
  intro past₁ h₁ c₁ put hput
  have hmem₁ : current ∈ writes i past₁ := writes_mono h₁.suffix hmem
  have hnext : next.identity = i :=
    (hrev past₁ h₁.suffix c₁).identity_eq.trans (identity_of_mem_writes hmem₁)
  refine ⟨⟨hu.quiet h₁.quiet, current, (mem_writes_iff.1 hmem₁).1, rfl,
    hrev past₁ h₁.suffix c₁⟩, ?_⟩
  have hlast : lastAccess task.number
      (.answered task (.replace next current.version) put :: past₁) =
        some (.answered task (.replace next current.version) put, past₁) :=
    lastAccess_answered rfl (.refl _)
  have hpart : Occurrence.isPart (.answered task (.replace next current.version) put) = true :=
    Occurrence.isPart_answered put rfl
  rcases hput with ⟨hnone, rfl⟩ | ⟨old, hold, ⟨hv, rfl⟩ | ⟨hv, rfl⟩⟩
  · refine Operation.Upholds.throw (.told now hlast hpart c₁ ?_)
    rw [← hnext, hnone]
    rfl
  · rw [hnext] at hold
    obtain rfl : current = old := c₁.eq_of_version_eq hold hmem₁ hv.symm
    refine Operation.Upholds.pure (.told now hlast hpart c₁ ?_)
    rw [hold, Change.verdict, Verdict.given_some, hch]
    rfl
  · refine hretry _ (h₁.suffix.trans (List.suffix_cons _ past₁)) ?_
    exact uncommitted_of_answered rfl rfl (.refl _)

/-- Trying a change so many times. -/
theorem upholds_reviseWithin {rounds : Nat} (hu : Uncommitted task.number past)
    (hc : ∀ later now current next, past <:+ later → Chronicle later →
      current ∈ writes i later → change now current = .ok (some next) →
        Revision task later current next) :
    (reviseWithin i change rounds).Upholds task Proper
      (fun res later => Settled task.number i change later res) past := by
  induction rounds generalizing past with
  | zero => exact Operation.Upholds.throw (.lost hu)
  | succ rounds ih =>
    apply Operation.Upholds.ask_bind
    intro past₁ h₁ c₁ found ht
    refine ⟨hu.quiet h₁.quiet, ?_⟩
    have hlast {later : List Occurrence}
        (hq : Quiet task.number (.answered task (.lookup i) found :: past₁) later) :
        lastAccess task.number later = some (.answered task (.lookup i) found, past₁) :=
      lastAccess_answered rfl hq
    have hpart : Occurrence.isPart (.answered task (.lookup i) found) = true :=
      Occurrence.isPart_answered found rfl
    rcases ht with ⟨hnone, rfl⟩ | ⟨current, hcur, rfl⟩
    · refine Operation.Upholds.throw (.told .epoch (hlast (.refl _)) hpart c₁ ?_)
      rw [hnone]
      rfl
    rw [Operation.ofStore_ok, pure_bind]
    apply Operation.Upholds.ask_bind
    intro past₂ h₂ c₂ now _
    refine ⟨trivial, ?_⟩
    have q₂ : Quiet task.number (.answered task (.lookup i) (.ok current) :: past₁)
        (.answered task .clock now :: past₂) := (Since.refl _).answered h₂ rfl
    cases hch : change now current with
    | error e =>
      refine Operation.Upholds.throw (.told now (hlast q₂) hpart c₁ ?_)
      rw [hcur, Change.verdict, Verdict.given_some, hch]
      rfl
    | ok decided =>
      cases decided with
      | none =>
        refine Operation.Upholds.pure (.told now (hlast q₂) hpart c₁ ?_)
        rw [hcur, Change.verdict, Verdict.given_some, hch]
        rfl
      | some next =>
        have s₂ : past₁ <:+ .answered task .clock now :: past₂ :=
          (List.suffix_cons _ past₁).trans q₂.suffix
        have hmem : current ∈ writes i (.answered task .clock now :: past₂) :=
          writes_mono s₂ (mem_writes_of_recordAfter hcur)
        refine upholds_replace (uncommitted_of_answered rfl rfl q₂) hmem hch ?_ ?_
        · intro later hs hchron
          exact hc later now current next (h₁.suffix.trans (s₂.trans hs)) hchron
            (writes_mono hs hmem) hch
        · intro later hs hlater
          refine ih hlater ?_
          intro later' now' cur nxt hs'
          exact hc later' now' cur nxt ((h₁.suffix.trans (s₂.trans hs)).trans hs')

/-- A change is settled by the last access. -/
theorem upholds_revise (hu : Uncommitted task.number past)
    (hc : ∀ later now current next, past <:+ later → Chronicle later →
      current ∈ writes i later → change now current = .ok (some next) →
        Revision task later current next) :
    (revise i change).Upholds task Proper
      (fun res later => Settled task.number i change later res) past :=
  upholds_reviseWithin hu hc

end Revise

end Enrolment
