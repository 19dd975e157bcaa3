import Enrolment.Proofs.Turns

/-!
# Calls that run together as if alone

Whatever runs together, the calls could have run alone, one after another, in the
order of their last accesses: each of them would have ended as it did, and the
records would be the same.  A call that was over before another one began comes
first in that order.  What a call reads before its last access it reads again, or
it could not have changed since.

Calls that were tried too often, and rounds that the registry did not answer,
have no turn.  They wrote nothing, and so did every call that failed.

## Main definitions

* `InTurn` — the turns are taken one after another.
* `Precedes` — everything that one task did came before everything that the
  other did.
* `Serialization` — an order in which the calls of a run may have run alone.

## Main statements

* `Progress.step` — the order reproduces one more occurrence.
* `World.Reachable.linearizable` — every run has such an order.
-/

namespace Enrolment

/-! ## Orders of turns -/

/-- The turns are taken one after another, from one store to the other. -/
inductive InTurn (s : Store) : List Turn → Store → Prop
  /-- There are no turns. -/
  | nil : InTurn s [] s
  /-- One turn after the others. -/
  | snoc {turns : List Turn} {t : Turn} {s₁ s₂ : Store} (h : InTurn s turns s₁)
      (ht : t.Alone s₁ s₂) : InTurn s (turns ++ [t]) s₂

/-- Everything that one task did came before everything that the other did. -/
def Precedes (past : List Occurrence) (a b : Task) : Prop :=
  ∃ later earlier, past = later ++ earlier ∧ (∀ o ∈ later, o.task = a → o.isPart = false) ∧
    ∀ o ∈ earlier, o.task = b → o.isPart = false

/-- An order in which the calls of a run may have run alone, for the part of the
run between two worlds. -/
structure Serialization (w₀ w : World) (more : List Occurrence) (turns : List Turn) : Prop where
  /-- Alone one after another, the calls end as the turns tell and leave the
  records as they are, with no other keysets than there are. -/
  alone : ∃ s, InTurn w₀.store turns s ∧ (∀ i, s.get? i = w.store.get? i) ∧
    ∀ keyId keys, s.keys? keyId = some keys → w.store.keys? keyId = some keys
  /-- A call has one turn at most. -/
  distinct : (turns.map Turn.task).Nodup
  /-- A call that was over before another one began comes first. -/
  inTime : turns.Pairwise fun a b => ¬Precedes w.past b.task a.task
  /-- A call that met the records, ended and did not give up has a turn that ends
  alike.  A call that its argument checks refuse meets none: it has no turn, for it
  neither tells nor changes anything about them. -/
  complete : ∀ task res, (⟨task, .done res⟩ : Running) ∈ w.running → task.call.subject? ≠ none →
    (∃ o ∈ more, o.task = task ∧ o.isAccess = true) → ¬GaveUp res →
      ∃ t ∈ turns, t.ended = ⟨task, .done res⟩
  /-- A turn is one of a call that met the records, and either ended so or has
  written its record. -/
  genuine : ∀ t ∈ turns, (∃ o ∈ more, o.task = t.task ∧ o.isAccess = true) ∧
    (t.ended ∈ w.running ∨ ∃ o ∈ more, o.task = t.task ∧ o.written? ≠ none)
  /-- The end of a round is what the registry reported. -/
  heard : ∀ t ∈ turns, ∀ r kind, t.task.call = .register r kind →
    ∃ said, t.outcome = some said ∧ Reported t.task w.past said

/-- The last access of one turn came before that of the other. -/
def Before (past : List Occurrence) (a b : Turn) : Prop :=
  ∃ o e o' e', a.Tells past o e ∧ b.Tells past o' e' ∧ (o :: e) <:+ e'

variable {w₀ w : World} {past cur : List Occurrence} {turns : List Turn} {s : Store}
  {o : Occurrence} {t a b : Turn}

theorem Before.task_ne (h : Before past a b) : a.task ≠ b.task := by
  intro heq
  obtain ⟨o, e, o', e', ha, hb, hs⟩ := h
  have hlast : (o, e) = (o', e') := Option.some.inj (ha.last.symm.trans (heq ▸ hb.last))
  obtain ⟨-, rfl⟩ := Prod.mk.inj hlast
  have hle := hs.length_le
  rw [List.length_cons] at hle
  omega

/-- The order of the last accesses respects the order of calls that do not
overlap. -/
theorem Before.not_precedes (h : Before past a b) : ¬Precedes past b.task a.task := by
  rintro ⟨later, earlier, rfl, hlater, hearlier⟩
  obtain ⟨o, e, o', e', ha, hb, hs⟩ := h
  have hsuffix : (o' :: e') <:+ later ++ earlier := lastAccess_suffix hb.last
  rcases List.suffix_or_suffix_of_suffix hsuffix (List.suffix_append later earlier) with hin | hin
  · have hmem : o ∈ earlier :=
      hin.subset (List.mem_cons_of_mem o' (hs.subset List.mem_cons_self))
    have hpart := hearlier o hmem ha.task
    rw [ha.part] at hpart
    cases hpart
  · rcases List.suffix_cons_iff.1 hin with rfl | hin
    · have hmem : o ∈ o' :: e' := List.mem_cons_of_mem o' (hs.subset List.mem_cons_self)
      have hpart := hearlier o hmem ha.task
      rw [ha.part] at hpart
      cases hpart
    · have hpart := hlater o' (mem_of_suffix_append hsuffix hin) hb.task
      rw [hb.part] at hpart
      cases hpart

/-! ## One occurrence after another -/

/-- The turns reproduce what happened up to some occurrence of the run. -/
structure Progress (w₀ w : World) (cur : List Occurrence) (turns : List Turn) (s : Store) :
    Prop where
  /-- The turns are taken one after another. -/
  inTurn : InTurn w₀.store turns s
  /-- The records are those of the run at that time. -/
  records : ∀ i, s.get? i = recordAfter i cur
  /-- A key has the keyset that it has in the end. -/
  keys : ∀ keyId keys, s.keys? keyId = some keys → keysAfter keyId w.past = some keys
  /-- A record has a keyset for its key. -/
  present : ∀ i, s.get? i ≠ none → s.keys? i.keyId ≠ none
  /-- The turns are those of calls whose last access was in that part of the run. -/
  told : ∀ t ∈ turns, ∃ o e, t.Tells w.past o e ∧ (o :: e) <:+ cur ∧ w₀.past <:+ e ∧
    (t.ended ∈ w.running ∨ o.written? ≠ none)
  /-- They are in the order of the last accesses. -/
  ordered : turns.Pairwise (Before w.past)
  /-- All calls that ended and did not give up are among them. -/
  complete : ∀ o e, lastAccess o.task.number w.past = some (o, e) → (o :: e) <:+ cur →
    w₀.past <:+ e → ∀ res, ⟨o.task, .done res⟩ ∈ w.running →
      o.task.call.subject? = none ∨ GaveUp res ∨ ∃ t ∈ turns, t.ended = ⟨o.task, .done res⟩

/-- Before anything happens there are no turns. -/
theorem progress_start (h₀ : w₀.Sound) (hs : w₀.past <:+ w.past) :
    Progress w₀ w w₀.past [] w₀.store where
  inTurn := .nil
  records := h₀.get?_eq
  keys keyId keys hk := keysAfter_mono hs (h₀.agree.keys keyId ▸ hk)
  present i hi := by
    have hkeys : w₀.store.keys? i.keyId = keysAfter i.keyId w₀.past := h₀.agree.keys i.keyId
    rw [hkeys]
    exact h₀.chronicle.keysAfter_ne_none (h₀.get?_eq i ▸ hi)
  told := by simp
  ordered := .nil
  complete o e _ hcur hbase := by
    have hle := (hcur.trans hbase).length_le
    rw [List.length_cons] at hle
    omega

namespace Progress

/-- What decided nothing needs no turn. -/
private theorem skip (hp : Progress w₀ w cur turns s) (hw : o.written? = none)
    (hc : lastAccess o.task.number w.past = some (o, cur) → ∀ res,
      ⟨o.task, .done res⟩ ∈ w.running → o.task.call.subject? = none ∨ GaveUp res) :
    Progress w₀ w (o :: cur) turns s where
  inTurn := hp.inTurn
  records i := by rw [recordAfter_cons_of_none hw, hp.records]
  keys := hp.keys
  present := hp.present
  told t ht := by
    obtain ⟨o', e, htells, hs, hbase, hd⟩ := hp.told t ht
    exact ⟨o', e, htells, hs.trans (List.suffix_cons o cur), hbase, hd⟩
  ordered := hp.ordered
  complete o' e hlast hs hbase res hres := by
    rcases List.suffix_cons_iff.1 hs with heq | hs
    · obtain ⟨rfl, rfl⟩ := List.cons.inj heq
      rcases hc hlast res hres with hnone | hgave
      · exact .inl hnone
      · exact .inr (.inl hgave)
    · exact hp.complete o' e hlast hs hbase res hres

/-- The store tells a call the same as the run told it at its last access. -/
private theorem verdict_eq (hp : Progress w₀ w cur turns s) (hchron : Chronicle cur)
    (hs : cur <:+ w.past) {c : Service.Call} {service : Service}
    {outcome : Option (Except GiveUp Ack)} {now : Moment} (i : Identity) :
    c.verdict service outcome now (s.get? i) (s.keys? i.keyId) =
      c.verdict service outcome now (recordAfter i cur) (keysAfter i.keyId cur) := by
  rw [hp.records]
  cases hr : recordAfter i cur with
  | none => exact Service.Call.verdict_of_none _ _
  | some r =>
    obtain ⟨keys, hkeys⟩ := Option.ne_none_iff_exists'.1
      (hp.present i (by rw [hp.records, hr]; exact Option.some_ne_none r))
    obtain ⟨keys', hkeys'⟩ := Option.ne_none_iff_exists'.1
      (hchron.keysAfter_ne_none (i := i) (by simp [hr]))
    have heq : some keys = some keys' :=
      (hp.keys _ _ hkeys).symm.trans (keysAfter_mono hs hkeys')
    rw [hkeys, hkeys', heq]

variable {i : Identity} {drawn : Keyset} {s' : Store}

/-- A record that a call wrote has a keyset for its key, as every other has. -/
private theorem present_of_becomes (hp : Progress w₀ w cur turns s)
    (hb : s.Becomes i drawn o.written? s')
    (hsubject : ∀ new, o.written? = some new → new.identity = i) (j : Identity)
    (hj : s'.get? j ≠ none) : s'.keys? j.keyId ≠ none := by
  by_cases hold : s.get? j = none
  · cases hw : o.written? with
    | none => exact absurd ((hb.kept hw j).trans hold) hj
    | some new =>
      rw [hb.written new hw] at hj
      split at hj
      · rename_i hjn
        obtain rfl : j = i := hjn.trans (hsubject new hw)
        exact hb.present (by simp [hw]) hold
      · exact absurd hold hj
  · rcases hb.keys j.keyId with hsame | ⟨-, -, hnone, -⟩
    · exact hsame ▸ hp.present j hold
    · exact absurd hnone (hp.present j hold)

/-- A keyset that was drawn for a new record is the one that its key has in the
end. -/
private theorem keys_of_becomes (hp : Progress w₀ w cur turns s) (hchron : Chronicle (o :: cur))
    (hs : (o :: cur) <:+ w.past) (hb : s.Becomes i drawn o.written? s')
    (hsubject : ∀ new, o.written? = some new → new.identity = i)
    (hdrawn : ∀ keys, keysAfter i.keyId w.past = some keys → drawn = keys) (keyId : String)
    (keys : Keyset) (hk : s'.keys? keyId = some keys) : keysAfter keyId w.past = some keys := by
  rcases hb.keys keyId with hsame | ⟨rfl, hwrote, -, hnew⟩
  · exact hp.keys keyId keys (hsame ▸ hk)
  · obtain ⟨new, hw⟩ := Option.ne_none_iff_exists'.1 hwrote
    have hrec : recordAfter i (o :: cur) ≠ none := by
      rw [recordAfter_cons_of_some hw, hsubject new hw, if_pos rfl]
      exact Option.some_ne_none new
    obtain ⟨ks, hks⟩ := Option.ne_none_iff_exists'.1 (hchron.keysAfter_ne_none hrec)
    have hend : keysAfter i.keyId w.past = some ks := keysAfter_mono hs hks
    rw [hend, ← hk, hnew, hdrawn ks hend]

/-- The call of a last access takes its turn. -/
private theorem take (hp : Progress w₀ w cur turns s) (hchron : Chronicle (o :: cur))
    (hs : (o :: cur) <:+ w.past) (hbase : w₀.past <:+ cur) (ht : t.Tells w.past o cur)
    (hall : ∀ res, ⟨o.task, .done res⟩ ∈ w.running → t.ended = ⟨o.task, .done res⟩)
    (hd : t.ended ∈ w.running ∨ o.written? ≠ none) (hk : o.task.call.isKeyless = false) :
    ∃ s', Progress w₀ w (o :: cur) (turns ++ [t]) s' := by
  obtain ⟨i, hi, hv, hdraws⟩ := ht.verdict
  have hs' : cur <:+ w.past := (List.suffix_cons o cur).trans hs
  obtain ⟨s', halone, hbecomes⟩ := Service.Call.alone_verdict hi
    ((hp.verdict_eq hchron.tail hs' i).trans hv) (hp.present i)
  -- The call writes the record of the identity that it names.
  have hsubject : ∀ new, o.written? = some new → new.identity = i := by
    intro new hw
    have hnew := ((hchron.commit hw).verdict hk rfl).1
    rw [ht.task, hi] at hnew
    exact (Option.some.inj hnew).symm
  refine ⟨s', .snoc hp.inTurn halone, ?_,
    hp.keys_of_becomes hchron hs hbecomes hsubject hdraws,
    hp.present_of_becomes hbecomes hsubject, ?_, ?_, ?_⟩
  · intro j
    cases hw : o.written? with
    | none => rw [recordAfter_cons_of_none hw, hbecomes.kept hw, hp.records]
    | some new => rw [recordAfter_cons_of_some hw, hbecomes.written new hw, hp.records]
  · intro t' ht'
    rcases List.mem_append.1 ht' with ht' | ht'
    · obtain ⟨o', e, htells, hsuf, hb, hd'⟩ := hp.told t' ht'
      exact ⟨o', e, htells, hsuf.trans (List.suffix_cons o cur), hb, hd'⟩
    · obtain rfl := List.mem_singleton.1 ht'
      exact ⟨o, cur, ht, List.suffix_rfl, hbase, hd⟩
  · refine List.pairwise_append.2
      ⟨hp.ordered, List.pairwise_singleton _ _, fun t' ht' t'' ht'' => ?_⟩
    obtain rfl := List.mem_singleton.1 ht''
    obtain ⟨o', e, htells, hsuf, -⟩ := hp.told t' ht'
    exact ⟨o', e, o, cur, htells, ht, hsuf⟩
  · intro o' e hlast hsuf hbase' res hres
    rcases List.suffix_cons_iff.1 hsuf with heq | hsuf
    · obtain ⟨rfl, rfl⟩ := List.cons.inj heq
      exact .inr (.inr ⟨t, by simp, hall res hres⟩)
    · rcases hp.complete o' e hlast hsuf hbase' res hres with hnone | hgave | ⟨t', ht', heq⟩
      · exact .inl hnone
      · exact .inr (.inl hgave)
      · exact .inr (.inr ⟨t', List.mem_append_left _ ht', heq⟩)

/-- The order reproduces one more occurrence of the run. -/
theorem step (hp : Progress w₀ w cur turns s) (h : w.Sound) (hs : (o :: cur) <:+ w.past)
    (hbase : w₀.past <:+ cur) (hk : o.task.call.isKeyless = false) :
    ∃ turns s, Progress w₀ w (o :: cur) turns s := by
  have hchron : Chronicle (o :: cur) := h.chronicle.of_suffix hs
  by_cases hlast : lastAccess o.task.number w.past = some (o, cur)
  · rcases h.turn_of_lastAccess hlast hk with ⟨t, ht, hall, hd⟩ | ⟨hw, hgave⟩
    · obtain ⟨s', hp'⟩ := hp.take hchron hs hbase ht hall hd hk
      exact ⟨_, s', hp'⟩
    · exact ⟨turns, s, hp.skip hw fun _ => hgave⟩
  · refine ⟨turns, s, hp.skip ?_ fun hl => absurd hl hlast⟩
    by_contra hw
    obtain ⟨new, hw⟩ := Option.ne_none_iff_exists'.1 hw
    exact hlast (h.chronicle.lastAccess_of_written hs hw)

/-- The order reproduces the whole run. -/
theorem run (h₀ : w₀.Sound) (h : w.Sound) {more : List Occurrence}
    (hs : (more ++ w₀.past) <:+ w.past) (hk : ∀ o ∈ more, o.task.call.isKeyless = false) :
    ∃ turns s, Progress w₀ w (more ++ w₀.past) turns s := by
  induction more with
  | nil => exact ⟨[], w₀.store, progress_start h₀ hs⟩
  | cons o more ih =>
    have hs' : (more ++ w₀.past) <:+ w.past := (List.suffix_cons o _).trans hs
    obtain ⟨turns, s, hp⟩ := ih hs' fun x hx => hk x (List.mem_cons_of_mem o hx)
    exact hp.step h hs (List.suffix_append more w₀.past) (hk o List.mem_cons_self)

end Progress

/-! ## The order of a run -/

/-- A task that met the records in a part of the run did so last in that part or
after it. -/
theorem exists_lastAccess {k : Nat} {more : List Occurrence} (base : List Occurrence)
    (h : ∃ o ∈ more, o.task.number = k ∧ o.isAccess = true) :
    ∃ o e, lastAccess k (more ++ base) = some (o, e) ∧ base <:+ e := by
  induction more with
  | nil => simp at h
  | cons x more ih =>
    rw [List.cons_append, lastAccess]
    split
    · rename_i hx
      exact ⟨x, more ++ base, rfl, List.suffix_append more base⟩
    · rename_i hx
      obtain ⟨o, ho, hk⟩ := h
      rcases List.mem_cons.1 ho with rfl | ho
      · exact absurd hk hx
      · exact ih ⟨o, ho, hk⟩

/-- The end of a round has a verdict only once the registry has been heard. -/
theorem Service.Call.outcome_of_verdict {c : Service.Call} {service : Service}
    {outcome : Option (Except GiveUp Ack)} {now : Moment} {stored : Option Record}
    {keys : Option Keyset} {v : Verdict c.Result} {r : Record} {kind : RoundKind}
    (h : c.verdict service outcome now stored keys = some v) (hc : c = .register r kind) :
    ∃ said, outcome = some said := by
  subst hc
  obtain ⟨said, hsaid, -⟩ := Option.map_eq_some_iff.1 h
  exact ⟨said, hsaid⟩

/-- The turns that reproduce a whole run are an order of it. -/
theorem Progress.serialization {more : List Occurrence} (hp : Progress w₀ w w.past turns s)
    (h : w.Sound) (hmore : w.past = more ++ w₀.past) : Serialization w₀ w more turns where
  alone := by
    refine ⟨s, hp.inTurn, fun i => by rw [hp.records, h.get?_eq], fun keyId keys hk => ?_⟩
    exact (h.agree.keys keyId).trans (hp.keys keyId keys hk)
  distinct := List.pairwise_map.2 (hp.ordered.imp Before.task_ne)
  inTime := hp.ordered.imp Before.not_precedes
  complete task res hres hsubject hmet hgave := by
    obtain ⟨x, hx, rfl, hxa⟩ := hmet
    obtain ⟨o, e, hlast, hbase⟩ := exists_lastAccess w₀.past ⟨x, hx, rfl, hxa⟩
    rw [← hmore] at hlast
    have hsuffix : (o :: e) <:+ w.past := lastAccess_suffix hlast
    have htask : o.task = x.task := by
      refine h.task_eq_of_number_eq (hsuffix.subset List.mem_cons_self) ?_
        (lastAccess_spec hlast).1
      exact hmore ▸ List.mem_append_left _ hx
    rw [← htask] at hlast hsubject
    have hcomplete := hp.complete o e hlast hsuffix hbase
    rw [htask] at hcomplete hsubject
    rcases hcomplete res hres with hnone | hgave' | hturn
    · exact absurd hnone hsubject
    · exact absurd hgave' hgave
    · exact hturn
  genuine t ht := by
    obtain ⟨o, e, htells, hsuffix, hbase, hd⟩ := hp.told t ht
    have hmem : o ∈ more := mem_of_suffix_append (hmore ▸ hsuffix) hbase
    refine ⟨⟨o, hmem, htells.task, (lastAccess_spec htells.last).2⟩, ?_⟩
    exact hd.imp_right fun hw => ⟨o, hmem, htells.task, hw⟩
  heard t ht r kind hc := by
    obtain ⟨o, e, htells, -⟩ := hp.told t ht
    obtain ⟨i, -, hv, -⟩ := htells.verdict
    obtain ⟨said, hsaid⟩ := Service.Call.outcome_of_verdict hv hc
    exact ⟨said, hsaid, htells.heard said hsaid⟩

namespace World

/-- From every world that a run leads to, every run has an order in which its
calls may have run alone, as long as every challenge names its key.  A call that
failed, as one does that was tried too often, wrote nothing. -/
theorem Reachable.linearizable {more : List Occurrence} (h₀ : w₀.Reachable) (hl : w₀.Leads w)
    (hmore : w.past = more ++ w₀.past) (hk : ∀ o ∈ more, o.task.call.isKeyless = false) :
    (∃ turns, Serialization w₀ w more turns) ∧
      ∀ task e, (⟨task, .done (.error e)⟩ : Running) ∈ w.running → task.call.subject? ≠ none →
        ∀ o ∈ w.past, o.task = task → o.written? = none := by
  have h : w.Sound := Leads.sound hl h₀.sound
  refine ⟨?_, fun task e he hs o ho ht => h.uncommitted_of_error he hs ho ht⟩
  have hsuffix : (more ++ w₀.past) <:+ w.past := hmore ▸ List.suffix_rfl
  obtain ⟨turns, s, hp⟩ := Progress.run h₀.sound h hsuffix hk
  exact ⟨turns, Progress.serialization (hmore ▸ hp) h hmore⟩

/-- Two rounds that raced for one record have an order. -/
theorem linearizable_race : ∃ (w₀ w : World) (more : List Occurrence) (turns : List Turn),
    w₀.Reachable ∧ w₀.Leads w ∧ w.past = more ++ w₀.past ∧ Serialization w₀ w more turns ∧
      turns ≠ [] := by
  have hreach : (empty.play twoRounds).Reachable := leads_play _ _
  have hleads : (empty.play twoRounds).Leads ((empty.play twoRounds).play race) := leads_play _ _
  obtain ⟨more, hmore⟩ := hleads.past
  have hkeyless : ∀ o ∈ ((empty.play twoRounds).play race).past,
      o.task.call.isKeyless = false := by
    decide +kernel
  obtain ⟨⟨turns, hturns⟩, -⟩ := Reachable.linearizable hreach hleads hmore.symm
    fun o ho => hkeyless o (hmore ▸ List.mem_append_left _ ho)
  refine ⟨_, _, more, turns, hreach, hleads, hmore.symm, hturns, ?_⟩
  rintro rfl
  -- Without a turn the record would be what it was.
  obtain ⟨s, halone, hrecords, -⟩ := hturns.alone
  have hsame : (((empty.play twoRounds).play race).store.get? sampleIdentity).map (·.version) =
      ((empty.play twoRounds).store.get? sampleIdentity).map (·.version) := by
    generalize hnil : ([] : List Turn) = turns at halone
    cases halone with
    | nil => rw [hrecords]
    | snoc => simp at hnil
  revert hsame
  decide +kernel

end World

end Enrolment
