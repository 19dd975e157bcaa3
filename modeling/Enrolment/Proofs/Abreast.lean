import Enrolment.Proofs.Challenges
import Enrolment.Proofs.Solo

/-!
# Operations side by side

Two runs of an operation, each by itself on a stage of its own, go the same way
as long as they are told alike.  What alike means is left open: a relation of
stages and one of records that the answers to a few asks keep.  Then every call
for an identity keeps them too, and both runs end alike.

## Main definitions

* `SameEnd` — two results are errors alike, or they match.
* `Operation.Abreast` — two operations end alike on stages that match.
* `Plan.Alike` — a plan ends the same on both.
* `RecordMatch`, `StageMatch` — what has to be kept.
* `Change.Respects` — a change decides alike on records that match.

## Main statements

* `Operation.Abreast.bind` — one after another.
* `StageMatch.revise` — a change goes the same way.
* `StageMatch.create`, `StageMatch.update`, `StageMatch.pushStatus`,
  `StageMatch.get`, `StageMatch.conclude` — and so does every call.
-/

namespace Enrolment

variable {α β α' β' : Type} {p : Nat} {i : Identity} {S S' : Stage → Stage → Prop}
  {Q : α → β → Prop} {R : α' → β' → Prop} {t u : Stage}

/-! ## Results -/

/-- The same error, or values that match. -/
inductive SameEnd (Q : α → β → Prop) : Except ServiceError α → Except ServiceError β → Prop
  /-- Both are values. -/
  | ok {a : α} {b : β} (h : Q a b) : SameEnd Q (.ok a) (.ok b)
  /-- Both are errors. -/
  | error (e : ServiceError) : SameEnd Q (.error e) (.error e)

theorem SameEnd.mono {Q' : α → β → Prop} {a : Except ServiceError α} {b : Except ServiceError β}
    (h : SameEnd Q a b) (hQ : ∀ a b, Q a b → Q' a b) : SameEnd Q' a b := by
  cases h with
  | ok h => exact .ok (hQ _ _ h)
  | error e => exact .error e

theorem SameEnd.refl {a : Except ServiceError α} : SameEnd (· = ·) a a := by
  cases a with
  | ok a => exact .ok rfl
  | error e => exact .error e

theorem SameEnd.eq {a b : Except ServiceError α} (h : SameEnd (· = ·) a b) : a = b := by
  cases h with
  | ok h => rw [h]
  | error e => rfl

theorem SameEnd.cases {a : Except ServiceError α} {b : Except ServiceError β} (h : SameEnd Q a b) :
    (∃ e, a = .error e ∧ b = .error e) ∨ ∃ x y, a = .ok x ∧ b = .ok y ∧ Q x y := by
  cases h with
  | ok h => exact .inr ⟨_, _, rfl, rfl, h⟩
  | error e => exact .inl ⟨e, rfl, rfl⟩

/-- Results that match are decided on alike. -/
theorem SameEnd.bind {a : Except ServiceError α} {b : Except ServiceError β}
    {f : α → Except ServiceError α'} {g : β → Except ServiceError β'} (h : SameEnd Q a b)
    (hfg : ∀ x y, Q x y → SameEnd R (f x) (g y)) : SameEnd R (a >>= f) (b >>= g) := by
  cases h with
  | ok h => exact hfg _ _ h
  | error e => exact .error e

theorem SameEnd.mapError {a : Except ServiceError α} {b : Except ServiceError β} (h : SameEnd Q a b)
    (e : ServiceError → ServiceError) : SameEnd Q (a.mapError e) (b.mapError e) := by
  cases h with
  | ok h => exact .ok h
  | error e' => exact .error (e e')

/-- Options match if there is nothing, or if what there is matches. -/
theorem rel_cases {M : α → β → Prop} {a : Option α} {b : Option β} (h : Option.Rel M a b) :
    (a = none ∧ b = none) ∨ ∃ x y, a = some x ∧ b = some y ∧ M x y := by
  cases h with
  | none => exact .inl ⟨rfl, rfl⟩
  | some h => exact .inr ⟨_, _, rfl, rfl, h⟩

theorem isSome_cases {a b : Option α} (h : b.isSome = a.isSome) :
    (a = none ∧ b = none) ∨ ∃ x y, a = some x ∧ b = some y := by
  cases a with
  | none => exact .inl ⟨rfl, by simpa using h⟩
  | some x =>
    obtain ⟨y, hy⟩ := Option.isSome_iff_exists.1 h
    exact .inr ⟨x, y, rfl, hy⟩

/-! ## Running side by side -/

namespace Operation

/-- By themselves in a process, the operations end alike on stages that match. -/
def Abreast (p : Nat) (S : Stage → Stage → Prop) (Q : α → β → Prop) (x : Operation α)
    (y : Operation β) (t u : Stage) : Prop :=
  SameEnd Q (x.solo p t).1 (y.solo p u).1 ∧ S (x.solo p t).2 (y.solo p u).2

namespace Abreast

variable {x : Operation α} {y : Operation β} {f : α → Operation α'} {g : β → Operation β'}

theorem pure {a : α} {b : β} (hS : S t u) (h : Q a b) :
    Abreast p S Q (pure a) (pure b) t u := ⟨.ok h, hS⟩

theorem throw (e : ServiceError) (hS : S t u) :
    Abreast p S Q (throw e) (throw e) t u := ⟨.error e, hS⟩

/-- What is known of both runs. -/
theorem of_solo {a : Except ServiceError α} {b : Except ServiceError β} {t' u' : Stage}
    (hx : x.solo p t = (a, t')) (hy : y.solo p u = (b, u')) (h : SameEnd Q a b) (hS : S t' u') :
    Abreast p S Q x y t u := by
  unfold Abreast
  rw [hx, hy]
  exact ⟨h, hS⟩

theorem mono {Q' : α → β → Prop} (h : Abreast p S Q x y t u)
    (hS : ∀ t' u', S t' u' → S' t' u') (hQ : ∀ a b, Q a b → Q' a b) :
    Abreast p S' Q' x y t u :=
  ⟨h.1.mono hQ, hS _ _ h.2⟩

/-- One after another. -/
theorem bind (h : Abreast p S Q x y t u)
    (hok : ∀ a b t' u', S t' u' → Q a b → Abreast p S' R (f a) (g b) t' u')
    (herr : ∀ t' u', S t' u' → S' t' u') : Abreast p S' R (x >>= f) (y >>= g) t u := by
  obtain ⟨hend, hS⟩ := h
  rcases hx : x.solo p t with ⟨a, t'⟩
  rcases hy : y.solo p u with ⟨b, u'⟩
  rw [hx, hy] at hend hS
  unfold Abreast
  cases hend with
  | ok hQ =>
    rw [solo_bind_ok hx, solo_bind_ok hy]
    exact hok _ _ t' u' hS hQ
  | error e =>
    rw [solo_bind_error hx, solo_bind_error hy]
    exact ⟨.error e, herr t' u' hS⟩

/-- What is made of the values. -/
theorem map {f : α → α'} {g : β → β'} (h : Abreast p S Q x y t u)
    (hfg : ∀ a b, Q a b → R (f a) (g b)) : Abreast p S R (f <$> x) (g <$> y) t u := by
  rw [map_eq_pure_bind, map_eq_pure_bind]
  exact h.bind (fun a b _ _ hS hQ => pure hS (hfg a b hQ)) fun _ _ hS => hS

/-- Errors are reworded alike. -/
theorem adapt (h : Abreast p S Q x y t u) (e : ServiceError → ServiceError) :
    Abreast p S Q (ExceptT.adapt e x : Operation α) (ExceptT.adapt e y : Operation β) t u := by
  obtain ⟨hend, hS⟩ := h
  have hadapt {γ : Type} {z : Operation γ} {v : Stage} :
      Operation.solo p (ExceptT.adapt e z) v = ((z.solo p v).1.mapError e, (z.solo p v).2) :=
    Plan.solo_map z.run (Except.mapError e)
  unfold Abreast
  rw [hadapt, hadapt]
  exact ⟨hend.mapError e, hS⟩

/-- After two asks comes what comes after the answers. -/
theorem ask_bind {a b : Ask} {f : a.Reply → Operation α} {g : b.Reply → Operation β}
    (h : Abreast p S Q (f (t.respond p a).1) (g (u.respond p b).1) (t.respond p a).2
      (u.respond p b).2) :
    Abreast p S Q (Operation.ask a >>= f) (Operation.ask b >>= g) t u := h

/-- Both go on with the same, or end with the same error. -/
theorem ofExcept_bind {γ ε : Type} {e : ε → ServiceError} {r : Except ε γ}
    {f : γ → Operation α} {g : γ → Operation β} (hS : S t u)
    (h : ∀ c, r = .ok c → Abreast p S Q (f c) (g c) t u) :
    Abreast p S Q (Operation.ofExcept e r >>= f) (Operation.ofExcept e r >>= g) t u := by
  cases r with
  | ok c => exact h c rfl
  | error e' => exact throw (e e') hS

theorem ofExcept {ε : Type} {e : ε → ServiceError} {r : Except ε α} (hS : S t u) :
    Abreast p S (· = ·) (Operation.ofExcept e r) (Operation.ofExcept e r) t u := by
  cases r with
  | ok a => exact pure hS rfl
  | error e' => exact throw (e e') hS

/-- The same for everything in a list. -/
theorem mapM {γ : Type} {f : γ → Operation α} {l : List γ} (hS : S t u)
    (h : ∀ c t u, S t u → Abreast p S (· = ·) (f c) (f c) t u) :
    Abreast p S (· = ·) (l.mapM f) (l.mapM f) t u := by
  induction l generalizing t u with
  | nil => exact pure hS rfl
  | cons c l ih =>
    rw [List.mapM_cons]
    refine bind (h c t u hS) ?_ fun _ _ hS => hS
    rintro a _ t₁ u₁ hS₁ rfl
    refine bind (ih hS₁) ?_ fun _ _ hS => hS
    rintro as _ t₂ u₂ hS₂ rfl
    exact pure hS₂ rfl

end Abreast

end Operation

open Operation (Abreast)

/-- By itself in a process, the plan ends the same on both stages, and they match
then. -/
def Plan.Alike (p : Nat) (S : Stage → Stage → Prop) (x : Plan α) (t u : Stage) : Prop :=
  (x.solo p u).1 = (x.solo p t).1 ∧ S (x.solo p t).2 (x.solo p u).2

namespace Plan.Alike

variable {x : Plan α} {f : α → Plan β}

theorem pure {a : α} (hS : S t u) : (pure a : Plan α).Alike p S t u := ⟨rfl, hS⟩

theorem ask {a : Ask} (hreply : (u.respond p a).1 = (t.respond p a).1)
    (hS : S (t.respond p a).2 (u.respond p a).2) : (Plan.ask a).Alike p S t u := ⟨hreply, hS⟩

theorem bind (h : x.Alike p S t u) (hf : ∀ a t' u', S t' u' → (f a).Alike p S' t' u') :
    (x >>= f).Alike p S' t u := by
  obtain ⟨hres, hS⟩ := h
  unfold Alike
  rw [solo_bind, solo_bind, hres]
  exact hf _ _ _ hS

theorem map (h : x.Alike p S t u) (g : α → β) : (g <$> x).Alike p S t u := by
  rw [map_eq_pure_bind]
  exact h.bind fun a _ _ => pure

theorem run {o : Operation α} (h : Abreast p S (· = ·) o o t u) : o.run.Alike p S t u :=
  ⟨h.1.eq.symm, h.2⟩

/-- What is made of the results of an operation is the same if it is made alike of
results that match. -/
theorem of_abreast {o : Operation α} {M : α → α → Prop} {g : Except ServiceError α → β}
    (h : Abreast p S M o o t u) (hg : ∀ a b, SameEnd M a b → g b = g a) :
    (g <$> o.run).Alike p S t u := by
  obtain ⟨hend, hS⟩ := h
  unfold Alike
  rw [solo_map, solo_map]
  exact ⟨hg _ _ hend, hS⟩

/-- Calls until one tells the end go alike if each of them does, and each pause. -/
theorem runFrom {pause : Nat → Plan Unit} {call : Nat → Plan (Except RegistryError Ack)}
    (hp : ∀ n t u, S t u → (pause n).Alike p S t u)
    (hc : ∀ n t u, S t u → (call n).Alike p S t u) (attempt left : Nat) (hS : S t u) :
    (Backoff.runFrom pause call attempt left).Alike p S t u := by
  induction left generalizing attempt t u with
  | zero =>
    refine (hc attempt t u hS).bind ?_
    rintro (e | ack) t₁ u₁ hS₁ <;> exact pure hS₁
  | succ left ih =>
    refine (hc attempt t u hS).bind ?_
    rintro (e | ack) t₁ u₁ hS₁
    · by_cases hr : e.isRetryable = true
      · simp only [hr, if_true]
        exact (hp attempt t₁ u₁ hS₁).bind fun _ _ _ => ih (attempt + 1)
      · simp only [hr]
        exact pure hS₁
    · exact pure hS₁

end Plan.Alike

/-- A plan that cannot fail, and then operations. -/
theorem Operation.Abreast.lift_bind {x : Plan α} {f : α → Operation α'} {g : α → Operation β'}
    (h : x.Alike p S t u) (hfg : ∀ a t' u', S t' u' → Abreast p S' R (f a) (g a) t' u') :
    Abreast p S' R ((liftM x : Operation α) >>= f) ((liftM x : Operation α) >>= g) t u := by
  obtain ⟨hres, hS⟩ := h
  have hlift {v : Stage} : (liftM x : Operation α).solo p v =
      (.ok (x.solo p v).1, (x.solo p v).2) := Plan.solo_map x Except.ok
  unfold Abreast
  rw [solo_bind_ok hlift, solo_bind_ok hlift, hres]
  exact hfg _ _ _ hS

/-! ## What has to be kept -/

/-- Records of an identity match, and go on to match whatever is done to both. -/
structure RecordMatch (i : Identity) (M : Record → Record → Prop) : Prop where
  /-- They are records of the identity. -/
  identity : ∀ {r r'}, M r r' → r.identity = i ∧ r'.identity = i
  /-- They have the same version. -/
  version : ∀ {r r'}, M r r' → r'.version = r.version
  /-- They have the same status. -/
  status : ∀ {r r'}, M r r' → r'.status = r.status
  /-- They register the same. -/
  same : ∀ {r r'} (role payload), M r r' →
    r'.sameRegistration role payload = r.sameRegistration role payload
  /-- A record matches itself. -/
  refl : ∀ {r}, r.identity = i → M r r
  /-- Moved on, they match. -/
  withStatus : ∀ {r r'} (status now), M r r' →
    M (r.withStatus status now) (r'.withStatus status now)
  /-- With other parts, they match. -/
  withRegistration : ∀ {r r'} (role payload), M r r' →
    M { r with role := role, payload := payload } { r' with role := role, payload := payload }
  /-- Acknowledged, they match. -/
  withMessageId : ∀ {r r'} (messageId), M r r' →
    M { r with messageId := messageId } { r' with messageId := messageId }
  /-- Stored, they match. -/
  withVersion : ∀ {r r'} (version), M r r' →
    M { r with version := version } { r' with version := version }

/-- A change decides alike on records that match. -/
def Change.Respects (M : Record → Record → Prop) (change : Change) : Prop :=
  ∀ now r r', M r r' → SameEnd (Option.Rel M) (change now r) (change now r')

/-- Stages match, as far as the record of an identity and the keyset of its key
can tell, and they stay so.  A record is made only on stages that are ready: its
key has a keyset then. -/
structure StageMatch (p : Nat) (i : Identity) (M : Record → Record → Prop)
    (S Ready : Stage → Stage → Prop) : Prop where
  /-- So do the records. -/
  records : RecordMatch i M
  /-- Stages that are ready match. -/
  of_ready : ∀ {t u}, Ready t u → S t u
  /-- The clock tells the same. -/
  clock : ∀ {t u}, S t u → u.lot.readings 0 = t.lot.readings 0 ∧
    S (t.respond p .clock).2 (u.respond p .clock).2
  /-- The stored records match, if there are any. -/
  lookup : ∀ {t u}, S t u → Option.Rel M (t.store.get? i) (u.store.get? i)
  /-- They match after both were replaced. -/
  replace : ∀ {t u old old' new new'}, S t u → t.store.get? i = some old →
    u.store.get? i = some old' → M old old' → M new new' →
      S (t.respond p (.replace new old.version)).2 (u.respond p (.replace new' old'.version)).2
  /-- They match after both were made. -/
  insert : ∀ {t u r}, Ready t u → t.store.get? i = none → u.store.get? i = none →
    r.identity = i → S (t.respond p (.insert r)).2 (u.respond p (.insert r)).2
  /-- The key of a record has a keyset on both, or on neither. -/
  warm : ∀ {t u}, S t u → t.store.get? i ≠ none →
    (u.surroundings.found p i.keyId).isSome = (t.surroundings.found p i.keyId).isSome ∧
      S (t.warm p i.keyId) (u.warm p i.keyId)
  /-- Once the key was given a keyset, they are ready. -/
  supply : ∀ {t u}, S t u → Ready (t.supply p i.keyId) (u.supply p i.keyId)

/-! ## Changes -/

section Changes

variable {M : Record → Record → Prop} {change : Change}

/-- A change that an event decides, decides alike. -/
theorem RecordMatch.respects_permit (hM : RecordMatch i M) {event : Event}
    {f g : Outcome → Except ServiceError (Option Record)} {r r' : Record} (h : M r r')
    (hfg : ∀ outcome, SameEnd (Option.Rel M) (f outcome) (g outcome)) :
    SameEnd (Option.Rel M) (permit r.status event >>= f) (permit r'.status event >>= g) := by
  rw [hM.status h]
  refine SameEnd.refl.bind ?_
  rintro outcome _ rfl
  exact hfg outcome

theorem RecordMatch.respects_follow (hM : RecordMatch i M) (event : Event) :
    (follow event).Respects M := by
  intro now r r' h
  unfold follow
  refine hM.respects_permit h ?_
  rintro (next | -)
  · exact .ok (.some (hM.withStatus next now h))
  · exact .ok .none

theorem RecordMatch.respects_makeAgain (hM : RecordMatch i M) (role : String) (payload : Payload) :
    (makeAgain role payload).Respects M := by
  intro now r r' h
  unfold makeAgain
  refine hM.respects_permit h ?_
  rintro (next | -)
  · have hmoved := hM.withStatus next now h
    exact .ok (.some (hM.withMessageId none (hM.withRegistration role payload hmoved)))
  · exact .ok .none

theorem RecordMatch.respects_acknowledge (hM : RecordMatch i M) (ack : Ack) :
    (acknowledge ack).Respects M := by
  intro now r r' h
  unfold acknowledge
  refine (hM.respects_follow .accepted now r r' h).bind ?_
  rintro _ _ (hnext | _)
  · exact .ok (.some (hM.withMessageId _ hnext))
  · exact .ok .none

theorem RecordMatch.respects_inRound (hM : RecordMatch i M) (hch : change.Respects M)
    (round : Nat) : (inRound round change).Respects M := by
  intro now r r' h
  unfold inRound Record.mayBeIn
  rw [hM.status h, hM.version h]
  split
  · exact hch now r r' h
  · exact .ok .none

end Changes

/-! ## Calls -/

namespace StageMatch

variable {M : Record → Record → Prop} {Ready : Stage → Stage → Prop} {change : Change}
  {role : String} {payload : Payload}

/-- Both find a record, or none. -/
theorem lookup_bind (hm : StageMatch p i M S Ready) (hS : S t u) {f : Record → Operation α}
    {g : Record → Operation β}
    (h : ∀ r r', t.store.get? i = some r → u.store.get? i = some r' → M r r' →
      Abreast p S Q (f r) (g r') t u) :
    Abreast p S Q (Operation.ask (.lookup i) >>= fun found => Operation.ofStore found >>= f)
      (Operation.ask (.lookup i) >>= fun found => Operation.ofStore found >>= g) t u := by
  refine .ask_bind ?_
  simp only [Stage.respond, Surroundings.respond, Store.get]
  rcases rel_cases (hm.lookup hS) with ⟨ht, hu⟩ | ⟨r, r', ht, hu, hrec⟩
  · simp only [Stage.store] at ht hu
    rw [ht, hu]
    exact .throw _ hS
  · have hnext := h r r' ht hu hrec
    simp only [Stage.store] at ht hu
    rw [ht, hu]
    exact hnext

/-- A change is tried alike.  It is never tried twice, since nobody comes in
between. -/
theorem revise (hm : StageMatch p i M S Ready) (hch : change.Respects M) (hS : S t u) :
    Abreast p S M (revise i change) (revise i change) t u := by
  unfold Enrolment.revise maxRounds
  rw [reviseWithin_succ]
  refine hm.lookup_bind hS fun current current' ht hu hrec => .ask_bind ?_
  obtain ⟨hnow, hS₁⟩ := hm.clock hS
  have htime : (u.respond p .clock).1 = (t.respond p .clock).1 := hnow
  rw [htime]
  rcases (hch (t.respond p .clock).1 current current' hrec).cases with
    ⟨e, hd, hd'⟩ | ⟨decided, decided', hd, hd', hrel⟩
  · rw [hd, hd']
    exact .throw _ hS₁
  rw [hd, hd', Operation.ofExcept_ok, pure_bind, Operation.ofExcept_ok, pure_bind]
  cases hrel with
  | none => exact .pure hS₁ hrec
  | @some next next' hnext =>
    obtain ⟨hi, hi'⟩ := hm.records.identity hnext
    have hput : ((t.respond p .clock).2.respond p (.replace next current.version)).1 =
        .ok { next with version := current.version + 1 } := Store.put_of_some (hi ▸ ht)
    have hput' : ((u.respond p .clock).2.respond p (.replace next' current'.version)).1 =
        .ok { next' with version := current'.version + 1 } := Store.put_of_some (hi' ▸ hu)
    refine .ask_bind ?_
    rw [hput, hput', hm.records.version hrec]
    have hS₂ := hm.replace hS₁ ht hu hrec hnext
    rw [hm.records.version hrec] at hS₂
    exact .pure hS₂ (hm.records.withVersion _ hnext)

/-- The public keys of the key are found by both, or by neither. -/
theorem publicKeys (hm : StageMatch p i M S Ready) (hS : S t u) (ht : t.store.get? i ≠ none) :
    Abreast p S (fun _ _ => True) (Keys.publicKeys i.keyId) (Keys.publicKeys i.keyId) t u := by
  obtain ⟨hfound, hwarm⟩ := hm.warm hS ht
  refine .of_solo Keys.solo_publicKeys Keys.solo_publicKeys ?_ hwarm
  rcases isSome_cases hfound with ⟨h, h'⟩ | ⟨keys, keys', h, h'⟩
  · rw [h, h']
    exact .error _
  · rw [h, h']
    exact .ok trivial

/-- A registration is made alike. -/
theorem create (hm : StageMatch p i M S Ready) (hS : S t u) :
    Abreast p S M (Service.create i role payload) (Service.create i role payload) t u := by
  refine .ask_bind ?_
  obtain ⟨hnow, hS₁⟩ := hm.clock hS
  have htime : (u.respond p .clock).1 = (t.respond p .clock).1 := hnow
  rw [htime]
  refine .ofExcept_bind hS₁ fun fresh hfresh => ?_
  have hi : fresh.identity = i := (Record.make_eq_ok_iff.1 hfresh).2 ▸ rfl
  have hensure : Abreast p Ready (fun _ _ => True) (Keys.ensure i.keyId) (Keys.ensure i.keyId)
      (t.respond p .clock).2 (u.respond p .clock).2 :=
    .of_solo Keys.solo_ensure Keys.solo_ensure (.ok trivial) (hm.supply hS₁)
  refine .bind hensure ?_ fun t' u' => hm.of_ready
  intro _ _ t₂ u₂ hready _
  have hS₂ := hm.of_ready hready
  refine .ask_bind ?_
  rcases rel_cases (hm.lookup hS₂) with ⟨ht, hu⟩ | ⟨_, _, ht, hu, -⟩
  · have hinsert {v : Stage} (hv : v.store.get? i = none) :
        (v.respond p (.insert fresh)).1 = .ok { fresh with version := 1 } :=
      Store.create_of_none (hi.symm ▸ hv)
    rw [hinsert ht, hinsert hu]
    refine .ask_bind (.pure (hm.insert hready ht hu hi) ?_)
    exact hm.records.refl (r := { fresh with version := 1 }) hi
  · have hinsert {v : Stage} {old : Record} (hv : v.store.get? i = some old) :
        v.respond p (.insert fresh) = (.error (.alreadyExists i), v) := by
      have hcreate : v.store.create fresh = (.error (.alreadyExists i), v.store) := by
        rw [Store.create_of_some (hi.symm ▸ hv), hi]
      simp only [Stage.respond, Surroundings.respond, hcreate, Lot.after]
    rw [hinsert ht, hinsert hu]
    refine hm.lookup_bind hS₂ fun existing existing' _ _ hrec => ?_
    rw [hm.records.same role payload hrec]
    by_cases hsame : existing.sameRegistration role payload = true
    · simp only [hsame, if_true]
      exact .pure hS₂ hrec
    · simp only [hsame]
      exact .throw _ hS₂

/-- A registration is made again alike. -/
theorem update (hm : StageMatch p i M S Ready) (hS : S t u) :
    Abreast p S M (Service.update i role payload) (Service.update i role payload) t u := by
  refine .ofExcept_bind hS fun _ _ => .ofExcept_bind hS fun _ _ => ?_
  refine hm.lookup_bind hS fun current _ ht _ _ => ?_
  refine .bind (hm.publicKeys hS (by simp [ht])) ?_ fun _ _ hS => hS
  intro _ _ t₁ u₁ hS₁ _
  refine .bind (hm.revise (hm.records.respects_makeAgain role payload) hS₁) ?_ fun _ _ hS => hS
  intro stored stored' t₂ u₂ hS₂ hrec
  exact .ask_bind (.pure hS₂ hrec)

/-- A pushed status is followed alike. -/
theorem pushStatus (hm : StageMatch p i M S Ready) (hS : S t u) (status : String) :
    Abreast p S M (Service.pushStatus i status) (Service.pushStatus i status) t u := by
  unfold Service.pushStatus
  cases Status.read? status with
  | none => exact .throw _ hS
  | some target => exact hm.revise (hm.records.respects_follow _) hS

/-- A record is looked at alike. -/
theorem get (hm : StageMatch p i M S Ready) (hS : S t u) :
    Abreast p S M (Service.get i) (Service.get i) t u := by
  have hget := hm.lookup_bind hS (Q := M) (f := Pure.pure) (g := Pure.pure)
    fun _ _ _ _ hrec => .pure hS hrec
  simp only [bind_pure] at hget
  exact hget

/-- A round comes to its end alike. -/
theorem conclude (hm : StageMatch p i M S Ready) (hS : S t u) {r : Record} (hi : r.identity = i)
    (outcome : Except GiveUp Ack) :
    Abreast p S M (Service.conclude r outcome) (Service.conclude r outcome) t u := by
  subst hi
  rcases outcome with (_ | _) | ack
  · exact .throw _ hS
  · exact hm.revise (hm.records.respects_inRound (hm.records.respects_follow _) _) hS
  · exact hm.revise (hm.records.respects_inRound (hm.records.respects_acknowledge ack) _) hS

end StageMatch

end Enrolment
