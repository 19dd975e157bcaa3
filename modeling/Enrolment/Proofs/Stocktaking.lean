import Enrolment.Proofs.Failures
import Enrolment.Proofs.Resumption

/-!
# Taking stock

Taking stock counts the records with one status after the other, and others may
write between two counts.  So every count is right at a moment of its own, and
the counts together need not have been right at any moment: a record that moves
on in the meantime may be counted twice, or not at all.

They are right at one moment if no record was made and none changed its status
between the first count and the last one.

## Main definitions

* `Store.statusOf?`, `Store.census`, `Store.inventory` — the records of a store by
  their statuses.
* `tally` — what counts add up to.
* `World.countsAt`, `World.shownAt` — the counts, each at its moment, and the
  identities that are counted.
* `World.Counted` — a task has counted at these moments.

## Main statements

* `Store.census_congr` — the number of records with a status is told by the
  statuses of the identities.
* `World.count_shownAt` — a record that keeps its status is counted once.
* `World.Reachable.counted` — each count is right at a moment of its own.
* `World.Reachable.stocktaking` — what a call that has taken stock returns.
-/

namespace Enrolment

variable {s s' : Store} {i : Identity} {status : Status}

/-! ## The records of a store by their statuses -/

namespace Store

/-- The status of the record of an identity. -/
def statusOf? (s : Store) (i : Identity) : Option Status := (s.get? i).map Record.status

/-- The number of records with a status. -/
def census (s : Store) (status : Status) : Nat := s.records.countP (·.status = status)

/-- The number of records with each status. -/
def inventory (s : Store) : List (Status × Nat) :=
  Status.all.map fun status => (status, s.census status)

@[simp] theorem length_withStatus : (s.withStatus status).length = s.census status := by
  rw [withStatus, List.length_mergeSort, census, List.countP_eq_length_filter]

theorem mem_identities_withStatus :
    i ∈ (s.withStatus status).map Record.identity ↔ s.statusOf? i = some status := by
  rw [mem_map_withStatus, statusOf?, Option.map_eq_some_iff]

theorem mem_identities : i ∈ s.records.map Record.identity ↔ (s.statusOf? i).isSome := by
  have hnone : s.get? i = none ↔ i ∉ s.records.map Record.identity := get?_eq_none_iff
  rw [statusOf?, Option.isSome_map, Option.isSome_iff_ne_none, ne_eq, hnone, not_not]

/-- A listing shows an identity once if its record has the status. -/
theorem count_identities_withStatus :
    ((s.withStatus status).map Record.identity).count i =
      if s.statusOf? i = some status then 1 else 0 := by
  rw [nodup_withStatus.count]
  simp only [mem_identities_withStatus]

/-- The number of records with a status is told by the statuses of the
identities. -/
theorem census_congr (h : ∀ i, s.statusOf? i = s'.statusOf? i) :
    s.census status = s'.census status := by
  have hperm : ((s.withStatus status).map Record.identity).Perm
      ((s'.withStatus status).map Record.identity) := by
    rw [List.perm_ext_iff_of_nodup nodup_withStatus nodup_withStatus]
    intro i
    rw [mem_identities_withStatus, mem_identities_withStatus, h]
  simpa using hperm.length_eq

/-- A listing that shows the records with the status, and none twice, is as long
as there are such records. -/
theorem length_eq_census {rs : List Record} (hnodup : (rs.map Record.identity).Nodup)
    (h : ∀ r, r ∈ rs ↔ s.get? r.identity = some r ∧ r.status = status) :
    rs.length = s.census status := by
  have hperm : rs.Perm (s.withStatus status) := by
    rw [List.perm_ext_iff_of_nodup hnodup.of_map nodup_withStatus.of_map]
    intro r
    rw [h, mem_withStatus]
  rw [hperm.length_eq, length_withStatus]

end Store

/-- What the counts add up to. -/
def tally : List (Status × Nat) → Nat
  | [] => 0
  | (_, n) :: counts => n + tally counts

/-- Every record has one of the statuses. -/
theorem Store.tally_inventory : tally s.inventory = s.records.length := by
  have hall (records : List Record) : tally (Status.all.map fun status =>
      (status, records.countP (·.status = status))) = records.length := by
    induction records with
    | nil => rfl
    | cons r records ih =>
      rw [List.length_cons, ← ih]
      simp only [Status.all, List.map_cons, List.map_nil, tally, List.countP_cons]
      cases r.status <;> simp <;> omega
  exact hall s.records

/-! ## Counts at their moments -/

namespace World

variable {w : World} {task : Task} {statuses : List Status} {moments : List World}

/-- The number of records with each status, each at a moment of its own. -/
def countsAt (statuses : List Status) (moments : List World) : List (Status × Nat) :=
  List.zipWith (fun status v => (status, v.store.census status)) statuses moments

/-- The identities that are counted then. -/
def shownAt (statuses : List Status) (moments : List World) : List Identity :=
  (List.zipWith (fun status v => (v.store.withStatus status).map Record.identity)
    statuses moments).flatten

@[simp] theorem countsAt_cons {v : World} :
    countsAt (status :: statuses) (v :: moments) =
      (status, v.store.census status) :: countsAt statuses moments := rfl

@[simp] theorem shownAt_cons {v : World} :
    shownAt (status :: statuses) (v :: moments) =
      (v.store.withStatus status).map Record.identity ++ shownAt statuses moments := rfl

/-- The counts add up to as many as are counted. -/
theorem tally_countsAt : tally (countsAt statuses moments) = (shownAt statuses moments).length := by
  induction statuses generalizing moments with
  | nil => rfl
  | cons status statuses ih =>
    cases moments with
    | nil => rfl
    | cons v moments => simp [tally, ih]

/-- An identity that keeps its status is counted when the counting comes to that
status, and only then. -/
theorem count_shownAt {kept : Option Status} (hlength : moments.length = statuses.length)
    (h : ∀ v ∈ moments, v.store.statusOf? i = kept) :
    (shownAt statuses moments).count i = (statuses.map some).count kept := by
  induction statuses generalizing moments with
  | nil => rfl
  | cons status statuses ih =>
    cases moments with
    | nil => cases hlength
    | cons v moments =>
      have hhere : ((v.store.withStatus status).map Record.identity).count i =
          if some status = kept then 1 else 0 := by
        rw [Store.count_identities_withStatus, h v List.mem_cons_self]
        simp only [eq_comm]
      have htail := ih (Nat.succ.inj hlength) fun u hu => h u (List.mem_cons_of_mem v hu)
      rw [shownAt_cons, List.count_append, hhere, htail, List.map_cons, List.count_cons,
        Nat.add_comm]
      simp only [beq_iff_eq]

theorem count_map_some_all (kept : Option Status) :
    (Status.all.map some).count kept = if kept.isSome then 1 else 0 := by
  cases kept with
  | none => rfl
  | some status => cases status <;> rfl

/-- If all identities keep their statuses, everything is counted once. -/
theorem perm_shownAt (hlength : moments.length = Status.all.length)
    (h : ∀ v ∈ moments, ∀ i, v.store.statusOf? i = s.statusOf? i) :
    (shownAt Status.all moments).Perm (s.records.map Record.identity) := by
  rw [List.perm_iff_count]
  intro i
  rw [count_shownAt hlength fun v hv => h v hv i, count_map_some_all, s.distinct.count]
  simp only [Store.mem_identities]

/-- If all identities keep their statuses, the counts are those of one moment. -/
theorem countsAt_of_kept (hlength : moments.length = statuses.length)
    (h : ∀ v ∈ moments, ∀ i, v.store.statusOf? i = s.statusOf? i) :
    countsAt statuses moments = statuses.map fun status => (status, s.census status) := by
  induction statuses generalizing moments with
  | nil => rfl
  | cons status statuses ih =>
    cases moments with
    | nil => cases hlength
    | cons v moments =>
      have htail := ih (Nat.succ.inj hlength) fun u hu => h u (List.mem_cons_of_mem v hu)
      rw [countsAt_cons, htail, List.map_cons, Store.census_congr (h v List.mem_cons_self)]

/-! ## Counting in a run -/

/-- At these moments, one after the other, a task has counted the records with
these statuses. -/
structure Counted (w : World) (task : Task) (statuses : List Status) (moments : List World) :
    Prop where
  /-- There was a moment for each status. -/
  length_eq : moments.length = statuses.length
  /-- All of them were in the course of the call. -/
  amid : ∀ v ∈ moments, v.Amid task w
  /-- Each was before the next one. -/
  ordered : moments.Pairwise Leads

/-- A listing shows as many records as there are at its moment. -/
theorem Reachable.length_listed (h : w.Reachable) {rs : List Record} {earlier : List Occurrence}
    (hpast : w.past = .answered task (.withStatus status) (.ok rs) :: earlier) :
    rs.length = w.store.census status := by
  have hnow : (.answered task (.withStatus status) (.ok rs) :: earlier) <:+ w.past :=
    hpast ▸ List.suffix_rfl
  obtain ⟨rs', hreply, hrs⟩ := h.sound.chronicle.told hnow
  obtain rfl : rs = rs' := Except.ok.inj hreply
  refine Store.length_eq_census (h.nodup_listed (hnow.subset List.mem_cons_self)) fun r => ?_
  rw [hrs, h.sound.get?_eq, hpast]
  rfl

/-- Before all of these moments there was one at which an earlier thing had just
happened. -/
theorem Counted.exists_before (hm : w.Counted task statuses moments) (h : w.Reachable)
    {o : Occurrence} {earlier : List Occurrence} (ho : o.startsRound = false)
    (hs : (o :: earlier) <:+ w.past) (hmoments : ∀ v ∈ moments, (o :: earlier) <:+ v.past) :
    ∃ v : World, v.Amid o.task w ∧ v.past = o :: earlier ∧ ∀ u ∈ moments, v.Leads u := by
  cases moments with
  | nil =>
    obtain ⟨v, hamid, hpast⟩ := h.exists_amid hs ho
    exact ⟨v, hamid, hpast, fun u hu => absurd hu List.not_mem_nil⟩
  | cons first moments =>
    have hfirst := hm.amid first List.mem_cons_self
    obtain ⟨v, hamid, hpast⟩ :=
      hfirst.reachable.exists_amid (hmoments first List.mem_cons_self) ho
    refine ⟨v, ⟨hamid.reachable, hamid.leads.trans hfirst.leads, hamid.acting⟩, hpast, ?_⟩
    intro u hu
    rcases List.mem_cons.1 hu with rfl | hu
    · exact hamid.leads
    · exact hamid.leads.trans ((List.pairwise_cons.1 hm.ordered).1 u hu)

end World

/-- Count the records with a status. -/
def Service.count (status : Status) : Operation (Status × Nat) := do
  let records ← Operation.ofStore (← Operation.ask (.withStatus status))
  return (status, records.length)

theorem Service.readiness_eq : readiness = Status.all.mapM count := rfl

/-- A call that takes stock and runs alone returns the counts of the store, and
leaves it as it is. -/
theorem Service.alone_readiness (d : Draws) (s : Store) :
    readiness.Alone d s (.ok s.inventory) s := by
  have hcount (status : Status) : (count status).Alone d s (.ok (status, s.census status)) s := by
    refine .ask_bind rfl ?_
    rw [Operation.ofStore_ok, pure_bind, Store.length_withStatus]
    exact .pure _ s
  have hall (statuses : List Status) : (statuses.mapM count).Alone d s
      (.ok (statuses.map fun status => (status, s.census status))) s := by
    induction statuses with
    | nil => exact .pure [] s
    | cons status statuses ih =>
      rw [List.mapM_cons]
      exact .bind (hcount status) (.bind ih (.pure _ s))
  rw [readiness_eq]
  exact hall Status.all

namespace World

variable {w : World} {task : Task} {statuses : List Status} {start : List Occurrence}

/-- A task that has counted the records with some statuses has counted each at a
moment of its own. -/
theorem Reachable.counted (h : w.Reachable) {res : Except ServiceError (List (Status × Nat))}
    (hf : Follows task (statuses.mapM Service.count).run start w.past (.done res)) :
    ∃ moments, w.Counted task statuses moments ∧ (∀ v ∈ moments, start <:+ v.past) ∧
      res = .ok (countsAt statuses moments) := by
  -- The moments are found from the last one on, since each has to lead to those after it.
  induction statuses generalizing start res with
  | nil =>
    obtain ⟨hres, -⟩ := hf.done_cases
    exact ⟨[], ⟨rfl, by simp, .nil⟩, by simp, Plan.done.inj hres⟩
  | cons status statuses ih =>
    rw [List.mapM_cons, Service.count, bind_assoc] at hf
    rcases hf.operation_step_cases with ⟨⟨_, hstep⟩, -⟩ | ⟨mid, reply, hothers, hn⟩
    · cases hstep
    have hsuffix := hn.suffix
    obtain ⟨rs, rfl, -⟩ := h.sound.chronicle.told hsuffix
    simp only [Operation.ofStore_ok, pure_bind] at hn
    rcases hn.operation_bind_done with ⟨counts, mid', hrest, hdone⟩ | ⟨e, hrest, rfl⟩
    · obtain ⟨hres, hquiet⟩ := hdone.done_cases
      obtain ⟨moments, hcounted, hsince, hcounts⟩ := ih (hrest.of_byOthers hquiet)
      obtain ⟨v, hamid, hpast, hbefore⟩ := hcounted.exists_before h rfl hsuffix hsince
      refine ⟨v :: moments, ⟨congrArg Nat.succ hcounted.length_eq, ?_, ?_⟩, ?_, ?_⟩
      · exact List.forall_mem_cons.2 ⟨hamid, hcounted.amid⟩
      · exact List.pairwise_cons.2 ⟨hbefore, hcounted.ordered⟩
      · have hstart : start <:+ .answered task (.withStatus status) (.ok rs) :: mid :=
          hothers.suffix.trans (List.suffix_cons _ mid)
        exact List.forall_mem_cons.2 ⟨hpast ▸ hstart, fun u hu => hstart.trans (hsince u hu)⟩
      · cases hcounts
        rw [Plan.done.inj hres, hamid.reachable.length_listed hpast]
        rfl
    · obtain ⟨moments, -, -, hcounts⟩ := ih hrest
      cases hcounts

/-- No record disappears, so there are never fewer. -/
theorem Leads.length_records_le {v : World} (hl : v.Leads w) (h : v.Reachable) :
    v.store.records.length ≤ w.store.records.length := by
  have hsubset : v.store.records.map Record.identity ⊆ w.store.records.map Record.identity := by
    intro i hi
    by_contra hnot
    refine hl.get?_ne_none h.sound ?_ (Store.get?_eq_none_iff.2 hnot)
    exact fun hnone => Store.get?_eq_none_iff.1 hnone hi
  simpa using (List.subperm_of_subset v.store.distinct hsubset).length_le

/-- **Taking stock.**  A call that has taken stock returns the number of records
with each status, each as it was at a moment in the course of the call, one after
the other.  The numbers add up to as many identities as were counted, and one
whose record kept its status was counted once.  If all identities kept their
statuses, the numbers are those of one moment, and every record was counted once.
A call that runs alone returns the numbers of the store. -/
theorem Reachable.stocktaking (h : w.Reachable) :
    (∀ number process service res,
      (⟨⟨number, process, service, .readiness⟩, .done res⟩ : Running) ∈ w.running →
        ∃ moments, w.Counted ⟨number, process, service, .readiness⟩ Status.all moments ∧
          res = .ok (countsAt Status.all moments) ∧
          tally (countsAt Status.all moments) = (shownAt Status.all moments).length ∧
          (∀ i status, (∀ v ∈ moments, v.store.statusOf? i = some status) →
            (shownAt Status.all moments).count i = 1) ∧
          ∀ s : Store, (∀ v ∈ moments, ∀ i, v.store.statusOf? i = s.statusOf? i) →
            countsAt Status.all moments = s.inventory ∧ tally s.inventory = s.records.length ∧
              (shownAt Status.all moments).Perm (s.records.map Record.identity)) ∧
    ∀ d, Service.readiness.Alone d w.store (.ok w.store.inventory) w.store := by
  refine ⟨?_, fun d => Service.alone_readiness d w.store⟩
  intro number process service res hr
  obtain ⟨before, hf⟩ := (h.course hr).follows
  have hreadiness : Follows ⟨number, process, service, .readiness⟩ Service.readiness.run
      (.begun ⟨number, process, service, .readiness⟩ :: before) w.past (.done res) := hf
  rw [Service.readiness_eq] at hreadiness
  obtain ⟨moments, hcounted, -, hres⟩ := h.counted hreadiness
  refine ⟨moments, hcounted, hres, tally_countsAt, ?_, ?_⟩
  · intro i status hkept
    rw [count_shownAt hcounted.length_eq hkept, count_map_some_all]
    rfl
  · intro s hkept
    exact ⟨countsAt_of_kept hcounted.length_eq hkept, Store.tally_inventory,
      perm_shownAt hcounted.length_eq hkept⟩

/-- A record is counted while it waits; then the registry takes it up, and it is
counted once more. -/
def countedTwice : World := made.play
  ([.call 0 .readiness, .answer 2 .sample] ++ List.replicate 6 (.answer 1 .sample) ++
    List.replicate 5 (.answer 2 .sample))

theorem reachable_countedTwice : countedTwice.Reachable :=
  Relation.ReflTransGen.trans (leads_play empty _) (leads_play made _)

/-- What the call returns then. -/
def twiceCounted : List (Status × Nat) :=
  [(.initiated, 1), (.underSubscription, 1), (.subscribed, 0), (.invalidSsl, 0),
    (.unsubscribed, 0), (.invalid, 0)]

/-- The counts that a call has come to. -/
def countsOf? (running : Running) : Option (List (Status × Nat)) :=
  match running with
  | ⟨⟨_, _, _, .readiness⟩, .done (.ok counts)⟩ => some counts
  | _ => none

/-- The only record was counted twice. -/
theorem ended_countedTwice : ∃ number process service,
    (⟨⟨number, process, service, .readiness⟩, .done (.ok twiceCounted)⟩ : Running) ∈
      countedTwice.running := by
  have hcounts : (countedTwice.running[2]?).bind countsOf? = some twiceCounted := by
    decide +kernel
  obtain ⟨running, hrunning, hcounts⟩ := Option.bind_eq_some_iff.1 hcounts
  have hmem := List.mem_of_getElem? hrunning
  unfold countsOf? at hcounts
  split at hcounts
  · cases hcounts
    exact ⟨_, _, _, hmem⟩
  · cases hcounts

/-- The call that counted a record twice did so at moments of its own. -/
theorem stocktaking_countedTwice : ∃ (w : World) (task : Task) (moments : List World),
    w.Reachable ∧ w.Counted task Status.all moments ∧
      countsAt Status.all moments = twiceCounted ∧ (shownAt Status.all moments).length = 2 := by
  obtain ⟨number, process, service, hended⟩ := ended_countedTwice
  obtain ⟨moments, hcounted, hres, htally, -⟩ :=
    reachable_countedTwice.stocktaking.1 number process service _ hended
  have hcounts : twiceCounted = countsAt Status.all moments := Except.ok.inj hres
  refine ⟨countedTwice, _, moments, reachable_countedTwice, hcounted, hcounts.symm, ?_⟩
  rw [← htally, ← hcounts]
  rfl

/-- The counts add up to two, and there were never two records. -/
theorem stocktaking_torn : ∃ (w : World) (number process : Nat) (service : Service)
    (counts : List (Status × Nat)), w.Reachable ∧
    (⟨⟨number, process, service, .readiness⟩, .done (.ok counts)⟩ : Running) ∈ w.running ∧
    ∀ v : World, v.Reachable → v.Leads w →
      counts ≠ v.store.inventory ∧ tally counts ≠ v.store.records.length := by
  obtain ⟨number, process, service, hended⟩ := ended_countedTwice
  refine ⟨countedTwice, number, process, service, twiceCounted, reachable_countedTwice,
    hended, ?_⟩
  intro v hv hl
  have hone : countedTwice.store.records.length = 1 := by decide +kernel
  have hfew : v.store.records.length ≤ 1 := hone ▸ hl.length_records_le hv
  have htwo : tally twiceCounted ≠ v.store.records.length := by
    have : tally twiceCounted = 2 := rfl
    omega
  exact ⟨fun heq => htwo (heq ▸ Store.tally_inventory), htwo⟩

end World

end Enrolment
