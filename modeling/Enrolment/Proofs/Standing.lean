import Enrolment.Proofs.Lineage

/-!
# How a record stands

What a stored record holds is the work of several calls: one made it, one moved
it back, one left the answer to a challenge, a round left the name of its
acknowledgement.  Each of them leaves the record in order, whatever the others
did before.

A record waits for the registry for the sake of the call that last moved it
there.  Its role and payload are those of that call, and the acknowledgement it
bears is one of that wait.

## Main definitions

* `Record.InOrder` — what every written record satisfies.
* `LastWait` — the write that last made the record of an identity wait.
* `Acknowledged` — a round heard the acknowledgement.

## Main statements

* `Chronicle.inOrder` — every written record is in order.
* `Chronicle.lastWait_induction` — what every change in a wait keeps.
* `Chronicle.lastWait` — what a stored record has from the last wait.
* `World.Reachable.standing` — how every stored record of every run stands.
-/

namespace Enrolment

variable {task : Task} {past : List Occurrence} {o : Occurrence} {i : Identity}
  {old next new r : Record}

/-! ## Records in order -/

/-- What every written record satisfies. -/
structure Record.InOrder (r : Record) : Prop where
  /-- The answer to a challenge is there only while the registry challenges. -/
  nonce : r.nonce ≠ none → r.status = .underSubscription
  /-- A record that waits has been acknowledged by nobody yet. -/
  messageId : r.status = .initiated → r.messageId = none
  /-- The identity passes its check. -/
  identity : r.identity.check = .ok ()
  /-- The role passes its check. -/
  role : checkRole r.role = .ok ()
  /-- The payload passes its check. -/
  payload : r.payload.check = .ok ()

/-- The registry pushes nobody back to waiting. -/
theorem Edge.ne_initiated_of_pushed {source target status : Status}
    (h : Edge source (.pushed target) status) : target ≠ .initiated := by
  rintro rfl
  cases h

/-- Nobody is moved back to waiting but by a call that replaces the registration;
nothing else touches the role and the payload. -/
theorem Revision.parts (h : Revision task past old next) :
    (next.status ≠ .initiated ∧ next.role = old.role ∧ next.payload = old.payload) ∨
      (next.status = .initiated ∧ task.call = .update old.identity next.role next.payload ∧
        next.messageId = none ∧ checkRole next.role = .ok () ∧ next.payload.check = .ok ()) := by
  cases h with
  | remade hc hr hp _ => exact .inr ⟨rfl, hc, rfl, hr, hp⟩
  | pushed _ _ he => exact .inl ⟨he.ne_initiated_of_pushed, rfl, rfl⟩
  | challenged | accepted | rejected => exact .inl ⟨nofun, rfl, rfl⟩

/-- A change of a record that is in order leaves it in order. -/
theorem Revision.inOrder (h : Revision task past old next) (ho : old.InOrder) :
    next.InOrder := by
  have hwith (status : Status) (now : Moment) (hne : status ≠ .initiated) :
      (old.withStatus status now).InOrder := by
    refine ⟨?_, fun hs => absurd hs hne, ho.identity, ho.role, ho.payload⟩
    intro hnonce
    by_contra hs
    exact hnonce (Record.nonce_withStatus hs)
  cases h with
  | @remade _ _ now _ hr hp _ =>
    have hnone : (old.withStatus .initiated now).nonce = none := Record.nonce_withStatus (by decide)
    exact ⟨fun hnonce => absurd hnone hnonce, fun _ => rfl, ho.identity, hr, hp⟩
  | challenged => exact ⟨fun _ => rfl, nofun, ho.identity, ho.role, ho.payload⟩
  | pushed _ _ he => exact hwith _ _ he.ne_initiated_of_pushed
  | accepted => exact ⟨fun _ => rfl, nofun, ho.identity, ho.role, ho.payload⟩
  | rejected => exact hwith .invalid _ (by decide)

/-- Every written record is in order. -/
theorem Chronicle.inOrder (h : Chronicle past) (hr : r ∈ written past) : r.InOrder := by
  induction past generalizing r with
  | nil => simp [written] at hr
  | cons o past ih =>
    cases hw : o.written? with
    | none => exact ih h.tail (by simpa [written, hw] using hr)
    | some new =>
      have hcases : r = new ∨ r ∈ written past := by simpa [written, hw] using hr
      rcases hcases with rfl | hr
      · cases h.commit hw with
        | made _ hm _ _ =>
          obtain ⟨⟨hi, hrole, hp⟩, hfresh⟩ := Record.make_eq_ok_iff.1 hm
          refine ⟨?_, ?_, hi, hfresh ▸ hrole, hfresh ▸ hp⟩
          · exact fun hn => absurd (hfresh ▸ rfl) hn
          · exact fun _ => hfresh ▸ rfl
        | @revised old next ho hrev =>
          have hmem : old ∈ written past := (mem_writes_iff.1 (mem_writes_of_recordAfter ho)).1
          have hnext : next.InOrder := hrev.inOrder (ih h.tail hmem)
          exact ⟨hnext.nonce, hnext.messageId, hnext.identity, hnext.role, hnext.payload⟩
      · exact ih h.tail hr

/-! ## The last wait -/

/-- The task made the record of the identity wait, and it was the last that
did. -/
def LastWait (i : Identity) (past : List Occurrence) (task : Task) (new : Record) : Prop :=
  ∃ later o earlier, past = later ++ o :: earlier ∧ o.task = task ∧ o.written? = some new ∧
    new.identity = i ∧ new.status = .initiated ∧ ∀ r ∈ writes i later, r.status ≠ .initiated

theorem LastWait.head (hw : o.written? = some new) (hs : new.status = .initiated) :
    LastWait new.identity (o :: past) o.task new :=
  ⟨[], o, past, rfl, rfl, hw, rfl, hs, by simp⟩

theorem LastWait.cons (h : LastWait i past task new)
    (ho : ∀ r, o.written? = some r → r.identity = i → r.status ≠ .initiated) :
    LastWait i (o :: past) task new := by
  obtain ⟨later, x, earlier, rfl, htask, hx, hi, hs, hlater⟩ := h
  refine ⟨o :: later, x, earlier, rfl, htask, hx, hi, hs, ?_⟩
  intro r hr
  obtain ⟨hmem, hri⟩ := mem_writes_iff.1 hr
  cases hw : o.written? with
  | none => exact hlater r (writes_cons_of_none hw ▸ hr)
  | some r' =>
    have hcases : r = r' ∨ r ∈ written later := by simpa [written, hw] using hmem
    rcases hcases with rfl | hmem
    · exact ho r hw hri
    · exact hlater r (mem_writes_iff.2 ⟨hmem, hri⟩)

/-- What holds of a record that begins to wait, and is kept by its other changes
and by what happens to others, holds of every stored record since its last
wait. -/
theorem Chronicle.lastWait_induction {P : List Occurrence → Task → Record → Record → Prop}
    (wait : ∀ o past new, Commit o.task past new → new.status = .initiated →
      P (o :: past) o.task new new)
    (change : ∀ o past old next task began, Revision o.task past old next →
      recordAfter old.identity past = some old →
      o.written? = some { next with version := old.version + 1 } → next.status ≠ .initiated →
      P past task began old → P (o :: past) task began { next with version := old.version + 1 })
    (keep : ∀ o past task began r, P past task began r → P (o :: past) task began r)
    (h : Chronicle past) (hr : recordAfter i past = some r) :
    ∃ task began, LastWait i past task began ∧ P past task began r := by
  have hi : r.identity = i := identity_of_recordAfter hr
  rw [← hi]
  refine stored_induction (P := fun past r =>
    ∃ task began, LastWait r.identity past task began ∧ P past task began r) ?write ?other h hr
  case write =>
    intro o past new h hw ih
    -- The write begins a wait, or the record that it changes has one behind it.
    by_cases hs : new.status = .initiated
    · exact ⟨o.task, new, .head hw hs, wait o past new (h.commit hw) hs⟩
    · cases h.commit hw with
      | made _ hm _ _ =>
        obtain ⟨-, hfresh⟩ := Record.make_eq_ok_iff.1 hm
        exact absurd (hfresh ▸ rfl) hs
      | @revised old next ho hrev =>
        obtain ⟨task, began, hlast, hP⟩ := ih old (hrev.identity_eq ▸ ho)
        rw [← hrev.identity_eq] at hlast
        refine ⟨task, began, hlast.cons ?_, change o past old next task began hrev ho hw hs hP⟩
        intro written hwritten _
        rw [hw] at hwritten
        cases hwritten
        exact hs
  case other =>
    intro o past r hother ⟨task, began, hlast, hP⟩
    refine ⟨task, began, hlast.cons ?_, keep o past task began r hP⟩
    intro written hw hi
    exact absurd hi (hother written hw)

/-- A round for the record of a version heard an acknowledgement. -/
def Acknowledged (past : List Occurrence) (i : Identity) (version : Nat) (messageId : String) :
    Prop :=
  ∃ worker round kind request authorization ack, worker.call = .register round kind ∧
    round.identity = i ∧ round.version = version ∧
    .answered worker (.call request authorization) (.ok ack) ∈ past ∧ ack.messageId = messageId

theorem Acknowledged.cons {version : Nat} {messageId : String}
    (h : Acknowledged past i version messageId) : Acknowledged (o :: past) i version messageId := by
  obtain ⟨worker, round, kind, request, authorization, ack, hc, hi, hv, hmem, hm⟩ := h
  exact ⟨worker, round, kind, request, authorization, ack, hc, hi, hv, .tail o hmem, hm⟩

/-- What a stored record has from the wait that another record began. -/
structure Record.Bears (r : Record) (past : List Occurrence) (task : Task) (new : Record) :
    Prop where
  /-- A record that waits is the one that began it. -/
  waits : r.status = .initiated → new = r
  /-- The role and the payload are what the call gave. -/
  parts : task.call = .create r.identity r.role r.payload ∨
    task.call = .update r.identity r.role r.payload
  /-- The acknowledgement was heard in this wait. -/
  acknowledged : ∀ m, r.messageId = some m → Acknowledged past r.identity new.version m

theorem Record.Bears.cons (h : r.Bears past task new) : r.Bears (o :: past) task new :=
  ⟨h.waits, h.parts, fun m hm => (h.acknowledged m hm).cons⟩

/-- A change that begins no wait leaves a record with what it has from the last
one. -/
theorem Revision.bears (h : Revision task past old next) (version : Nat) {last : Task}
    (hb : old.Bears past last new) (hne : next.status ≠ .initiated) :
    Record.Bears { next with version := version } past last new := by
  rcases h.parts with ⟨-, hrole, hpayload⟩ | ⟨hs, -⟩
  · refine ⟨fun hs => absurd hs hne, ?_, ?_⟩
    · simpa only [h.identity_eq, hrole, hpayload] using hb.parts
    · intro m hm
      have hkept : old.messageId = some m → Acknowledged past next.identity new.version m :=
        h.identity_eq ▸ hb.acknowledged m
      cases h with
      | remade => cases hm
      | challenged | pushed | rejected => exact hkept hm
      | @accepted round kind request authorization ack _ hc hi hv ha he =>
        obtain rfl : new = old := hb.waits (he.eq_initiated (.inl rfl))
        exact ⟨task, round, kind, request, authorization, ack, hc, hi, hv, ha, Option.some.inj hm⟩
  · exact absurd hs hne

/-- A record that begins to wait bears what its call gave. -/
private theorem Commit.bears (h : Commit task past new) (hs : new.status = .initiated)
    (later : List Occurrence) : new.Bears later task new := by
  cases h with
  | @made fresh role payload now hc hm _ _ =>
    obtain ⟨-, hfresh⟩ := Record.make_eq_ok_iff.1 hm
    refine ⟨fun _ => rfl, .inl ?_, ?_⟩
    · rw [hc, ← hfresh]
      rfl
    · intro m hnone
      rw [← hfresh] at hnone
      cases hnone
  | @revised old next ho hrev =>
    rcases hrev.parts with ⟨hne, -⟩ | ⟨-, hc, hnone, -⟩
    · exact absurd hs hne
    · refine ⟨fun _ => rfl, .inr ?_, ?_⟩
      · rw [hc, ← hrev.identity_eq]
      · intro m hm
        simp [hnone] at hm

/-- Every stored record bears what it has from the last wait. -/
theorem Chronicle.lastWait (h : Chronicle past) (hr : recordAfter i past = some r) :
    ∃ task new, LastWait i past task new ∧ r.Bears past task new := by
  refine lastWait_induction (P := fun past task began r => r.Bears past task began)
    ?wait ?change ?keep h hr
  case wait =>
    intro o past new hcommit hs
    exact hcommit.bears hs (o :: past)
  case change =>
    intro o past old next task began hrev _ _ hne hb
    exact (hrev.bears (old.version + 1) hb hne).cons
  case keep =>
    intro o past task began r hb
    exact hb.cons

/-- The first write of an identity made its record, and the version of the stored
one is one more than the writes after it. -/
theorem Chronicle.version_eq_succ (h : Chronicle past) (hr : recordAfter i past = some r) :
    ∃ made after, writes i past = after ++ [made] ∧ made.version = 1 ∧
      r.version = 1 + after.length := by
  have hne : writes i past ≠ [] := fun hnil => by simp [recordAfter, hnil] at hr
  refine ⟨(writes i past).getLast hne, (writes i past).dropLast,
    (List.dropLast_append_getLast hne).symm, ?_, ?_⟩
  · have hsuffix : [(writes i past).getLast hne] <:+ writes i past :=
      ⟨(writes i past).dropLast, List.dropLast_append_getLast hne⟩
    exact h.version_of_suffix hsuffix
  · have hpos : 0 < (writes i past).length := List.length_pos_of_ne_nil hne
    rw [h.version_eq hr, List.length_dropLast]
    omega

namespace World

/-- Every stored record of every run is found under its own identity and in
order, counts its writes, and has its role and payload from the call that last
made it wait. -/
theorem Reachable.standing {w : World} (h : w.Reachable) (hr : w.store.get? i = some r) :
    r.identity = i ∧
      (r.nonce ≠ none → r.status = .underSubscription) ∧
      (r.status = .initiated → r.nonce = none ∧ r.messageId = none) ∧
      (∃ made after, writes i w.past = after ++ [made] ∧ made.version = 1 ∧
        r.version = 1 + after.length) ∧
      (r.identity.check = .ok () ∧ checkRole r.role = .ok () ∧ r.payload.check = .ok ()) ∧
      ∃ task new, LastWait i w.past task new ∧
        (task.call = .create i r.role r.payload ∨ task.call = .update i r.role r.payload) := by
  have hstored : recordAfter i w.past = some r := h.sound.get?_eq i ▸ hr
  have hmem : r ∈ writes i w.past := mem_writes_of_recordAfter hstored
  have hi : r.identity = i := identity_of_mem_writes hmem
  have horder : r.InOrder := h.sound.chronicle.inOrder (mem_writes_iff.1 hmem).1
  obtain ⟨task, new, hlast, hb⟩ := h.sound.chronicle.lastWait hstored
  refine ⟨hi, horder.nonce, fun hs => ⟨?_, horder.messageId hs⟩,
    h.sound.chronicle.version_eq_succ hstored, ⟨horder.identity, horder.role, horder.payload⟩,
    task, new, hlast, hi ▸ hb.parts⟩
  by_contra hn
  rw [horder.nonce hn] at hs
  cases hs

/-- After a renewal the record has the role that the renewal gave. -/
theorem standing_renewal : ∃ w : World, w.Reachable ∧ ∃ r,
    w.store.get? sampleIdentity = some r ∧ r.role = "BPP" ∧ r.version = 4 ∧
      ∃ task new, LastWait sampleIdentity w.past task new ∧
        (task.call = .create sampleIdentity r.role r.payload ∨
          task.call = .update sampleIdentity r.role r.payload) := by
  have hfinal : ((empty.play renewal).store.get? sampleIdentity).map
      (fun r => (r.role, r.version)) = some ("BPP", 4) := by
    decide +kernel
  obtain ⟨r, hr, heq⟩ := Option.map_eq_some_iff.1 hfinal
  obtain ⟨hrole, hversion⟩ := Prod.mk.inj heq
  have hreach : (empty.play renewal).Reachable := leads_play _ _
  obtain ⟨-, -, -, -, -, hlast⟩ := Reachable.standing hreach hr
  exact ⟨_, hreach, r, hr, hrole, hversion, hlast⟩

end World

end Enrolment
