import Enrolment.Proofs.Conduct.Requests
import Enrolment.Proofs.Providers

/-!
# One keyset for each key

A key has the keyset that was offered for it first, for ever, however many
providers serve it and whenever they started.  A registration is stored only once
its key has a keyset, so whatever is done with a stored registration finds one,
and all requests to the registry for a key carry the same public keys.

## Main definitions

* `Supplied` — a result that is no failure for want of a keyset.
* `World.Keyed` — what holds of keysets wherever a run leads.

## Main statements

* `Ended.supplied` — calls about stored records find their keysets.
* `World.Reachable.keyed` — it holds wherever a run from an empty store leads.
* `keysets_stay` — both, for providers and for the service.
-/

namespace Enrolment

/-! ## Failures for want of a keyset -/

/-- The result is no failure for want of a keyset. -/
def Supplied {α : Type} (res : Except ServiceError α) : Prop :=
  ∀ keyId, res ≠ .error (.keyNotFound keyId)

namespace Supplied

variable {α β : Type} {x : Except ServiceError α} {f : α → Except ServiceError β}

theorem ok (a : α) : Supplied (.ok a) := fun _ he => nomatch he

theorem bind (hx : Supplied x) (hf : ∀ a, Supplied (f a)) : Supplied (x >>= f) := by
  cases x with
  | ok a => exact hf a
  | error e =>
    intro keyId he
    cases he
    exact hx keyId rfl

theorem error {e : ServiceError} (h : ∀ keyId, e ≠ .keyNotFound keyId) :
    Supplied (.error e : Except ServiceError α) :=
  fun keyId he => h keyId (Except.error.inj he)

theorem mapError {ε : Type} {g : ε → ServiceError} (hg : ∀ e keyId, g e ≠ .keyNotFound keyId)
    (y : Except ε α) : Supplied (y.mapError g) := by
  cases y with
  | ok a => exact .ok a
  | error e => exact .error (hg e)

/-- What comes after a result that is known. -/
theorem after {ε : Type} {g : ε → ServiceError} {y : Except ε α} {next : α → Verdict β}
    (hy : Supplied (y.mapError g)) (hnext : ∀ a, Supplied (next a).result) :
    Supplied (Verdict.after g y next).result := by
  cases y with
  | ok a => exact hnext a
  | error e =>
    intro keyId he
    exact hy keyId (congrArg Except.error (Except.error.inj he))

/-- The graph of statuses knows nothing of keys. -/
theorem permit (source : Status) (event : Event) : Supplied (permit source event) :=
  mapError (by rintro e keyId ⟨⟩) _

end Supplied

variable {round : Nat} {change : Change} {now : Moment} {r : Record}

theorem supplied_follow (event : Event) : Supplied (follow event now r) := by
  refine (Supplied.permit _ _).bind ?_
  rintro (next | _) <;> exact .ok _

theorem supplied_makeAgain (role : String) (payload : Payload) :
    Supplied (makeAgain role payload now r) := by
  refine (Supplied.permit _ _).bind ?_
  rintro (next | _) <;> exact .ok _

theorem supplied_acknowledge (ack : Ack) : Supplied (acknowledge ack now r) := by
  refine (supplied_follow _).bind ?_
  rintro (_ | next) <;> exact .ok _

theorem supplied_inRound (h : Supplied (change now r)) : Supplied (inRound round change now r) := by
  unfold inRound
  split
  · exact h
  · exact .ok none

/-- The end of a round does not ask for keys. -/
theorem supplied_ending {outcome : Except GiveUp Ack} (h : ending r outcome = .ok change)
    (now : Moment) (current : Record) : Supplied (change now current) := by
  cases outcome with
  | ok ack =>
    cases h
    exact supplied_inRound (supplied_acknowledge ack)
  | error given =>
    cases given with
    | definitive e =>
      cases h
      exact supplied_inRound (supplied_follow _)
    | exhausted attempts e => cases h

theorem Change.supplied_verdict (h : ∀ now current, Supplied (change now current)) (i : Identity)
    (now : Moment) (stored : Option Record) : Supplied (change.verdict i now stored).result := by
  cases stored with
  | none => exact .error (by rintro keyId ⟨⟩)
  | some current =>
    refine Supplied.after ?_ ?_
    · have hch := h now current
      generalize change now current = decided at hch ⊢
      cases decided <;> exact hch
    · rintro (_ | next) <;> exact .ok _

/-- The call is about a registration that was stored, and so presumes that its
key has a keyset. -/
def Service.Call.presumesKeys : Service.Call → Bool
  | update .. | register .. => true
  | _ => false

/-- A call about a stored record does not fail for want of a keyset. -/
theorem Ended.supplied {task : Task} {past : List Occurrence} {c : Service.Call}
    {res : Except ServiceError c.Result} (h : Ended task past res)
    (hc : c.presumesKeys = true) : Supplied res := by
  cases h with
  | @told o earlier i outcome now _ _ _ _ _ hv =>
    cases c with
    | update i role payload =>
      have hres : (Verdict.update i role payload now _).result = res :=
        congrArg Verdict.result (Option.some.inj hv)
      rw [← hres]
      refine .after ?_ fun _ => .after ?_ fun _ => ?_
      · exact .mapError (by rintro e keyId ⟨⟩) _
      · exact .mapError (by rintro e keyId ⟨⟩) _
      · exact Change.supplied_verdict (fun now current => supplied_makeAgain role payload) i now _
    | register r kind =>
      obtain ⟨said, -, hsaid⟩ := Option.map_eq_some_iff.1 hv
      have hres : (Verdict.conclude r said now _).result = res := congrArg Verdict.result hsaid
      rw [← hres, Verdict.conclude]
      cases hend : ending r said with
      | error e => exact .error (by rintro keyId ⟨⟩)
      | ok change => exact Change.supplied_verdict (supplied_ending hend) r.identity now _
    | _ => cases hc
  | lost | unanswered => exact .error (by rintro keyId ⟨⟩)
  | unnamed hi =>
    cases c with
    | update | register => cases hi
    | _ => cases hc

/-! ## Runs -/

namespace World

variable {w w' : World}

/-- Keysets are where they are needed, and no key ever shows two. -/
structure Keyed (w : World) : Prop where
  /-- Every stored record has a keyset. -/
  stored : ∀ i r, w.store.get? i = some r → ∃ keys, w.store.keys? i.keyId = some keys
  /-- Keysets at hand are stored. -/
  backed : w.surroundings.Backed
  /-- Calls about stored records find their keysets. -/
  found : ∀ running ∈ w.running, running.task.call.presumesKeys = true →
    ∀ keyId, running.rest ≠ .done (.error (.keyNotFound keyId))
  /-- Whatever is asked of the registry carries the public keys of the stored
  keyset. -/
  advertised : ∀ task past request authorization,
    w.Requests task past request authorization →
      ∃ keys, w.store.keys? request.identity.keyId = some keys ∧ request.keys = keys.publicKeys

theorem Sound.keys?_eq (h : w.Sound) (keyId : String) :
    w.store.keys? keyId = keysAfter keyId w.past :=
  h.agree.keys keyId

/-- Wherever a run from an empty store leads, keysets are where they are
needed. -/
theorem Reachable.keyed (h : w.Reachable) : w.Keyed where
  stored i r hr := by
    have hne : recordAfter i w.past ≠ none := by simp [← h.sound.get?_eq, hr]
    obtain ⟨keys, hk⟩ := Option.ne_none_iff_exists'.1 (h.sound.chronicle.keysAfter_ne_none hne)
    exact ⟨keys, (h.sound.keys?_eq _).trans hk⟩
  backed process hp keyId keys hl :=
    (h.sound.keys?_eq keyId).trans (h.sound.agree.atHand process hp keyId keys hl)
  found running hmem hc keyId hrest := by
    have hupheld := h.sound.upheld running hmem
    rw [hrest] at hupheld
    exact Ended.supplied hupheld hc keyId rfl
  advertised task past request authorization hr := by
    obtain ⟨r, kind, keys, -, hk, messageId, now, rfl, -⟩ := h.requested hr
    refine ⟨keys, ?_, rfl⟩
    rw [h.sound.keys?_eq]
    refine keysAfter_mono ?_ hk
    rcases hr with ⟨reply, hs⟩ | ⟨rfl, -⟩
    · exact (List.suffix_cons _ past).trans hs
    · exact List.suffix_rfl

/-- No keyset is replaced. -/
theorem Leads.grows (hl : w.Leads w') (h : w.Sound) :
    Keyring.Grows w.store.keys? w'.store.keys? := by
  intro keyId keys hk
  rw [(hl.sound h).keys?_eq]
  exact keysAfter_mono hl.past ((h.keys?_eq keyId).symm.trans hk)

end World

/-- **One keyset for each key.**  Wherever providers over one store are led,
everything at hand and everything that was served for a key comes of one keyset,
the first one, and it stays.  So wherever the service is led, every stored record
has a keyset, calls about it find the keyset, and whatever is asked of the
registry carries its public keys. -/
theorem keysets_stay {s : Store} {ps ps' : Providers} {w w' : World}
    (hps : (Providers.ofStore s).Leads ps) (hps' : ps.Leads ps') (hw : w.Reachable)
    (hw' : w.Leads w') :
    (ps.Faithful s ∧ ps.keyring.Grows ps'.keyring) ∧
      w.Keyed ∧ Keyring.Grows w.store.keys? w'.store.keys? := by
  have hsound : ps.Sound s := hps.sound (Providers.sound_ofStore s)
  constructor
  · exact ⟨hsound.faithful, hps'.grows hsound⟩
  · exact ⟨hw.keyed, hw'.grows hw.sound⟩

/-- The use has ended. -/
def Using.isDone (x : Using) : Bool :=
  match x.rest with
  | .done _ => true
  | _ => false

/-- Of two keysets that are offered for one key the first one is used by both
providers, and a registration that is made and made again has one keyset. -/
theorem keysets_stay_contested :
    Providers.contested.offers.map Offer.keys = [⟨[1], [1]⟩, ⟨[], []⟩] ∧
    Providers.contested.running.map Using.isDone = [true, true] ∧
    (∀ x ∈ Providers.contested.running, ∀ a, x.rest = .done (.ok a) →
      ∃ keys, Providers.contested.keyring x.use.keyId = some keys ∧ x.use.outcome keys = .ok a) ∧
    Providers.contested.keyring "key" = some ⟨[1], [1]⟩ ∧
    (World.empty.play renewal).store.get? sampleIdentity ≠ none ∧
    (World.empty.play renewal).Keyed := by
  have hproviders : (Providers.ofStore .empty).Leads Providers.contested :=
    Relation.ReflTransGen.trans Providers.leads_contenders (Providers.leads_play _ _)
  have hworld : (World.empty.play renewal).Reachable := World.leads_play _ _
  have hstay := keysets_stay hproviders .refl hworld .refl
  have hthere : ((World.empty.play renewal).store.get? sampleIdentity).isSome = true := by
    decide +kernel
  exact ⟨by decide +kernel, by decide +kernel, hstay.1.1.served, by decide +kernel,
    Option.isSome_iff_ne_none.1 hthere, hstay.2.1⟩

end Enrolment
