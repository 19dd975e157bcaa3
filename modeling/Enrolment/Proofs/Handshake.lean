import Enrolment.Proofs.Passages
import Enrolment.Proofs.Standing

/-!
# Handshakes

The registry lists a subscriber only after a handshake: it takes the request up,
and later it pushes that the subscriber is subscribed.  Every wait has a handshake
of its own.  What was taken up, acknowledged or pushed in an earlier wait counts
for nothing once the registration is made again.

## Main definitions

* `Moved` — a write moved the record of an identity between two statuses.
* `TakesUp` — why a task may take up a record that waits.
* `Record.Advanced` — how far a record has come since it last began to wait.

## Main statements

* `Chronicle.advanced` — every stored record has come so far.
* `World.Reachable.heard_waiting` — a round hears only while its record waits.
* `World.Reachable.handshake` — a record that was listed went through a
  handshake in its last wait.
-/

namespace Enrolment

variable {task : Task} {past later earlier e : List Occurrence} {o : Occurrence} {i : Identity}
  {source target : Status} {old next new began r : Record}

/-! ## Moves -/

/-- A write moved the record of an identity from one status to another. -/
structure Moved (i : Identity) (source target : Status) (past : List Occurrence) (o : Occurrence)
    (earlier : List Occurrence) (old : Record) : Prop where
  /-- It is one of those that happened. -/
  suffix : (o :: earlier) <:+ past
  /-- The record was stored. -/
  stored : recordAfter i earlier = some old
  /-- It had the first status. -/
  status : old.status = source
  /-- The record that took its place has the other one. -/
  wrote : ∃ new, o.written? = some new ∧ new.identity = i ∧ new.status = target

theorem Moved.mono (h : Moved i source target past o earlier old) (hs : past <:+ later) :
    Moved i source target later o earlier old :=
  ⟨h.suffix.trans hs, h.stored, h.status, h.wrote⟩

/-- A move is a change that its task may make. -/
theorem Moved.revision (h : Moved i source target past o earlier old) (hc : Chronicle past) :
    ∃ next, Revision o.task earlier old next ∧ next.status = target := by
  obtain ⟨new, hw, hi, ht⟩ := h.wrote
  obtain ⟨next, hrev, rfl⟩ := (hc.of_suffix h.suffix).revision_of_stored hw (hi ▸ h.stored)
  exact ⟨next, hrev, ht⟩

/-- Only a push lists a subscriber. -/
theorem Revision.pushed_of_subscribed (h : Revision task past old next)
    (ht : next.status = .subscribed) : ∃ text, task.call = .pushStatus old.identity text ∧
      Status.read? text = some .subscribed := by
  cases h with
  | pushed hc hread _ =>
    cases ht
    exact ⟨_, hc, hread⟩
  | remade | challenged | accepted | rejected => cases ht

/-- Why a task may take up a record that waits. -/
inductive TakesUp (task : Task) (past : List Occurrence) (began : Record) : Prop
  /-- A round for this very record heard the registry acknowledge it, at a time
  when it was stored. -/
  | acknowledged {kind : RoundKind} {request : Request} {authorization : Option String} {ack : Ack}
      {heard : List Occurrence} (hc : task.call = .register began kind)
      (ha : (.answered task (.call request authorization) (.ok ack) :: heard) <:+ past)
      (hs : recordAfter began.identity heard = some began)
  /-- A challenge was opened with the keyset of the key of the record. -/
  | challenged {keyId : Option String} {challenge answer : String} {keys : Keyset}
      (hc : task.call = .answerChallenge began.identity.subscriberId keyId challenge)
      (hi : ∀ k, keyId = some k → k = began.identity.keyId)
      (hk : keysAfter began.identity.keyId past = some keys)
      (ho : Challenge.answerWith keys task.service.registryKey challenge = .ok answer)

/-! ## Since the last wait -/

/-- What has become of a record since another one of its identity began to
wait. -/
def Record.Advanced (r : Record) (past : List Occurrence) (began : Record) : Prop :=
  match r.status with
  | .initiated => began = r
  | .underSubscription => ∃ o earlier,
    Moved r.identity .initiated .underSubscription past o earlier began
  | .subscribed | .invalidSsl | .unsubscribed => ∃ o earlier old,
    Moved r.identity .underSubscription .subscribed past o earlier old ∧ ∃ o' earlier',
      Moved r.identity .initiated .underSubscription earlier o' earlier' began
  | .invalid => True

/-- What has become of a record does not depend on what others are written. -/
theorem Record.Advanced.mono (h : r.Advanced past began) (hs : past <:+ later) :
    r.Advanced later began := by
  unfold Record.Advanced at h ⊢
  cases hr : r.status <;> simp only [hr] at h ⊢
  · exact h
  · obtain ⟨o, earlier, hm⟩ := h
    exact ⟨o, earlier, hm.mono hs⟩
  all_goals
    obtain ⟨o, earlier, old, hm, htaken⟩ := h
    exact ⟨o, earlier, old, hm.mono hs, htaken⟩

/-- A change that begins no wait moves the record on in the wait that it is
in. -/
theorem Revision.advanced (h : Revision o.task past old next)
    (hw : o.written? = some { next with version := old.version + 1 })
    (ho : recordAfter old.identity past = some old) (hold : old.Advanced past began)
    (hne : next.status ≠ .initiated) :
    Record.Advanced { next with version := old.version + 1 } (o :: past) began := by
  have hi : next.identity = old.identity := h.identity_eq
  have hmoved {source target : Status} (hs : old.status = source) (ht : next.status = target) :
      Moved next.identity source target (o :: past) o past old :=
    ⟨List.suffix_rfl, hi ▸ ho, hs, _, hw, rfl, ht⟩
  have hkept := hold.mono (List.suffix_cons o past)
  unfold Record.Advanced at hold hkept ⊢
  rw [← hi] at hold hkept
  obtain ⟨event, he⟩ := h.edge
  generalize hs : old.status = source at he hold hkept
  generalize ht : next.status = target at he hne
  cases he with
  | accepted | firstChallenge =>
    obtain rfl : began = old := hold
    exact ⟨o, past, hmoved hs ht⟩
  | challenge => exact hkept
  | subscribed => exact ⟨o, past, old, hmoved hs ht, hold⟩
  | unsubscribed | certificateInvalidated => exact hkept
  | rejected | invalidated => exact trivial
  | certificateRenewed | reRegistered => exact absurd rfl hne

/-- Every stored record has come so far since it last began to wait. -/
theorem Chronicle.advanced (h : Chronicle past) (hr : recordAfter i past = some r) :
    ∃ task began, LastWait i past task began ∧ r.Advanced past began := by
  refine lastWait_induction (P := fun past _ began r => r.Advanced past began)
    ?wait ?change ?keep h hr
  case wait =>
    intro o past new _ hs
    simp only [Record.Advanced, hs]
  case change =>
    intro o past old next _ began hrev ho hw hne hold
    exact hrev.advanced hw ho hold hne
  case keep =>
    intro o past _ began r hold
    exact hold.mono (List.suffix_cons o past)

/-! ## Runs -/

namespace World

variable {w : World}

/-- What a round heard while its record waited, it heard when the record was
stored: the round did not begin before. -/
theorem Reachable.heard_waiting (h : w.Reachable) {round : Record} {kind : RoundKind} {ask : Ask}
    {reply : ask.Reply} (hc : task.call = .register round kind) (hs : earlier <:+ w.past)
    (ho : .answered task ask reply ∈ earlier) (hr : recordAfter round.identity earlier = some began)
    (hv : round.version = began.version) : round = began ∧ ∃ heard,
      (.answered task ask reply :: heard) <:+ earlier ∧
        recordAfter round.identity heard = some began := by
  obtain ⟨more, heard, rfl⟩ := List.append_of_mem ho
  have hheard : (.answered task ask reply :: heard) <:+ more ++ .answered task ask reply :: heard :=
    List.suffix_append more _
  -- The round was called before it heard anything, and its record was written by then.
  obtain ⟨before, hbegun⟩ := h.begun_before (hheard.trans hs)
  have htail : heard <:+ more ++ .answered task ask reply :: heard :=
    (List.suffix_cons _ heard).trans hheard
  have hwrites : round ∈ writes round.identity heard := by
    have hadmits := Course.admits (h.sound.chronicle.of_suffix (hbegun.trans (htail.trans hs)))
    rw [hc] at hadmits
    exact writes_mono hbegun (mem_writes_iff.2 ⟨hadmits, rfl⟩)
  have hchron := h.sound.chronicle.of_suffix hs
  have heq : round = began := hchron.eq_of_version_eq hr (writes_mono htail hwrites) hv
  refine ⟨heq, heard, hheard, ?_⟩
  exact hchron.stored_of_mem htail hr (heq ▸ hwrites)

/-- A task that takes up a record that waits is entitled to. -/
theorem Reachable.takesUp (h : w.Reachable) (hs : past <:+ w.past)
    (hm : Moved i .initiated .underSubscription past o earlier began) :
    TakesUp o.task earlier began := by
  obtain ⟨next, hrev, hnext⟩ := hm.revision (h.sound.chronicle.of_suffix hs)
  have hstatus := hm.status
  have hi : began.identity = i := identity_of_recordAfter hm.stored
  cases hrev with
  | remade | rejected => cases hnext
  | challenged hc hi hk ho _ _ => exact .challenged hc hi hk ho
  | pushed _ _ he =>
    rw [hstatus] at he
    cases he
  | @accepted round kind request authorization ack _ hc hround hv ha _ =>
    have hearlier : earlier <:+ w.past :=
      (List.suffix_cons o earlier).trans (hm.suffix.trans hs)
    obtain ⟨rfl, heard, hheard, hwaiting⟩ :=
      h.heard_waiting hc hearlier ha (hround.trans hi ▸ hm.stored) hv
    exact .acknowledged hc hheard hwaiting

/-- **No subscription without a handshake.**  A record that the registry lists,
or listed until it found the certificate invalid or struck the subscriber off,
was taken up since it last began to wait, by a round for the record that waited
or by a challenge for its key; and later a push listed it. -/
theorem Reachable.handshake (h : w.Reachable) (hr : w.store.get? i = some r)
    (hs : r.status = .subscribed ∨ r.status = .invalidSsl ∨ r.status = .unsubscribed) :
    ∃ maker began, LastWait i w.past maker began ∧
      ∃ o earlier old text, Moved i .underSubscription .subscribed w.past o earlier old ∧
        o.task.call = .pushStatus i text ∧ Status.read? text = some .subscribed ∧
        ∃ o' earlier', Moved i .initiated .underSubscription earlier o' earlier' began ∧
          TakesUp o'.task earlier' began := by
  have hchron := h.sound.chronicle
  have hstored : recordAfter i w.past = some r := h.sound.get?_eq i ▸ hr
  have hi : r.identity = i := identity_of_recordAfter hstored
  obtain ⟨maker, began, hlast, hcame⟩ := hchron.advanced hstored
  obtain ⟨o, earlier, old, hlisted, o', earlier', htaken⟩ : ∃ o earlier old,
      Moved i .underSubscription .subscribed w.past o earlier old ∧ ∃ o' earlier',
        Moved i .initiated .underSubscription earlier o' earlier' began := by
    unfold Record.Advanced at hcame
    rcases hs with hs | hs | hs <;> simpa only [hs, hi] using hcame
  obtain ⟨next, hrev, hnext⟩ := hlisted.revision hchron
  obtain ⟨text, hpush, hread⟩ := hrev.pushed_of_subscribed hnext
  rw [identity_of_recordAfter hlisted.stored] at hpush
  have hearlier : earlier <:+ w.past := (List.suffix_cons o earlier).trans hlisted.suffix
  exact ⟨maker, began, hlast, o, earlier, old, text, hlisted, hpush, hread, o', earlier',
    htaken, h.takesUp hearlier htaken⟩

/-- A round is acknowledged and a push lists the subscriber. -/
def listed : World := empty.play (twoRounds ++ List.replicate 6 (.answer 1 .sample) ++
  [.call 0 (.pushStatus sampleIdentity "subscribed")] ++ List.replicate 3 (.answer 4 .sample))

/-- The record of a subscriber that is listed has a handshake behind it. -/
theorem handshake_listed : ∃ w : World, w.Reachable ∧ ∃ r,
    w.store.get? sampleIdentity = some r ∧ r.status = .subscribed ∧
      ∃ maker began, LastWait sampleIdentity w.past maker began ∧ ∃ o earlier old,
        Moved sampleIdentity .underSubscription .subscribed w.past o earlier old ∧
          ∃ taker earlier', TakesUp taker earlier' began := by
  have hfinal : (listed.store.get? sampleIdentity).map (·.status) = some .subscribed := by
    decide +kernel
  obtain ⟨r, hr, hs⟩ := Option.map_eq_some_iff.1 hfinal
  have hreach : listed.Reachable := leads_play _ _
  obtain ⟨maker, began, hlast, o, earlier, old, -, hmoved, -, -, o', earlier', -, htakes⟩ :=
    Reachable.handshake hreach hr (.inl hs)
  exact ⟨listed, hreach, r, hr, hs, maker, began, hlast, o, earlier, old, hmoved, o'.task,
    earlier', htakes⟩

end World

end Enrolment
