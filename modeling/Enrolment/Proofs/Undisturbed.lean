import Enrolment.Proofs.Alone
import Enrolment.Proofs.Challenges
import Enrolment.Proofs.Standing
import Enrolment.Proofs.Texts.Padding

/-!
# Challenges that nobody disturbs

As long as nobody else writes the store, what becomes of a challenge is known
beforehand: which record it is for, which of many errors comes first, and what
the record holds in the end.  The store may hold anything.

The surroundings are any that answer asks about records from a store.  About keys
they may answer whatever they like, and fail as they like; as far as an error
comes before the keys are used, they need not even answer.

## Main definitions

* `Operation.runIn` — carry out an operation in surroundings.
* `Undisturbed` — asks about records are answered from the store.
* `KeysServed` — asks about keys are answered in some way.
* `Store.awaiting` — how many records of a subscriber take a challenge.
* `Service.AnswersFor` — what becomes of a challenge for a key.

## Main statements

* `Service.answerChallenge_undisturbed` — what becomes of a challenge.
-/

namespace Enrolment

/-! ## Surroundings -/

section Surroundings

variable {σ α β : Type} (answer : (a : Ask) → σ → Option a.Reply × σ) (store : σ → Store)

/-- Carry out an operation. -/
def Operation.runIn (x : Operation α) (w : σ) : Option (Except ServiceError α) × σ :=
  x.run.runIn answer w

/-- Nobody else writes the store, and the clock answers. -/
structure Undisturbed : Prop where
  /-- A record is the stored one. -/
  lookup (i : Identity) (w : σ) : answer (.lookup i) w = (some ((store w).get i), w)
  /-- The records of a subscriber are the stored ones. -/
  ofSubscriber (subscriberId : String) (w : σ) :
    answer (.ofSubscriber subscriberId) w = (some (.ok ((store w).ofSubscriber subscriberId)), w)
  /-- A record is replaced as in the store. -/
  replace (r : Record) (expected : Nat) (w : σ) :
    ∃ w', answer (.replace r expected) w = (some ((store w).put r expected).1, w') ∧
      store w' = ((store w).put r expected).2
  /-- It is some time. -/
  clock (w : σ) : ∃ now w', answer .clock w = (some now, w') ∧ store w' = store w

/-- Asks about keys are answered in some way, and nothing is written. -/
structure KeysServed : Prop where
  /-- A keyset is at hand or not. -/
  atHand (keyId : String) (w : σ) :
    ∃ reply w', answer (.keysAtHand keyId) w = (some reply, w') ∧ store w' = store w
  /-- A keyset is stored or not, or the store fails. -/
  stored (keyId : String) (w : σ) :
    ∃ reply w', answer (.storedKeys keyId) w = (some reply, w') ∧ store w' = store w
  /-- A keyset is kept at hand. -/
  keep (keyId : String) (keys : Keyset) (w : σ) :
    ∃ w', answer (.keepKeys keyId keys) w = (some (), w') ∧ store w' = store w

variable {answer : (a : Ask) → σ → Option a.Reply × σ} {store : σ → Store} {w w₁ : σ}

namespace Operation

variable {x : Operation α} {f : α → Operation β} {a : α} {e : ServiceError}

@[simp] theorem runIn_pure : (pure a : Operation α).runIn answer w = (some (.ok a), w) := rfl

@[simp] theorem runIn_throw :
    (throw e : Operation α).runIn answer w = (some (.error e), w) := rfl

theorem runIn_bind (h : x.runIn answer w = (some (.ok a), w₁)) :
    (x >>= f).runIn answer w = (f a).runIn answer w₁ :=
  Plan.runIn_bind x.run _ h

theorem runIn_bind_error (h : x.runIn answer w = (some (.error e), w₁)) :
    (x >>= f).runIn answer w = (some (.error e), w₁) :=
  Plan.runIn_bind x.run _ h

theorem runIn_ask_bind {ask : Ask} {reply : ask.Reply} {f : ask.Reply → Operation β}
    (h : answer ask w = (some reply, w₁)) :
    (Operation.ask ask >>= f).runIn answer w = (f reply).runIn answer w₁ := by
  have hstep : (Operation.ask ask >>= f).run = .step ask fun reply => (f reply).run := rfl
  rw [runIn, hstep, Plan.runIn, h]
  rfl

theorem runIn_adapt {g : ServiceError → ServiceError} {res : Except ServiceError α}
    (h : x.runIn answer w = (some res, w₁)) :
    (ExceptT.adapt g x).runIn answer w = (some (res.mapError g), w₁) :=
  Plan.runIn_bind x.run _ h

end Operation

/-! ## Keys -/

/-- Whoever asks for a keyset is told something. -/
theorem KeysServed.find? (hk : KeysServed answer store) (keyId : String) (w : σ) :
    ∃ res w', (Keys.find? keyId).runIn answer w = (some res, w') ∧ store w' = store w := by
  obtain ⟨found, w₁, hfound, h₁⟩ := hk.atHand keyId w
  rw [Keys.find?, Operation.runIn_ask_bind hfound]
  cases found with
  | some keys => exact ⟨_, w₁, rfl, h₁⟩
  | none =>
    obtain ⟨stored, w₂, hstored, h₂⟩ := hk.stored keyId w₁
    dsimp only
    rw [Operation.runIn_ask_bind hstored]
    cases stored with
    | error e => exact ⟨_, w₂, rfl, h₂.trans h₁⟩
    | ok stored =>
      rw [Operation.ofStore_ok, pure_bind]
      cases stored with
      | none => exact ⟨_, w₂, rfl, h₂.trans h₁⟩
      | some keys =>
        obtain ⟨w₃, hkept, h₃⟩ := hk.keep keyId keys w₂
        refine ⟨.ok (some keys), w₃, ?_, h₃.trans (h₂.trans h₁)⟩
        dsimp only
        rw [map_eq_pure_bind, Keys.keep, bind_assoc, Operation.runIn_ask_bind hkept]
        rfl

/-- A keyset that is at hand is found. -/
theorem Keys.runIn_find {keyId : String} {keys : Keyset}
    (h : answer (.keysAtHand keyId) w = (some (some keys), w₁)) :
    (find keyId).runIn answer w = (some (.ok keys), w₁) := by
  rw [find, find?, bind_assoc, Operation.runIn_ask_bind h]
  rfl

/-- A keyset that is found is used. -/
theorem Keys.runIn_openFrom {keyId challenge peer : String} {keys : Keyset}
    (h : (find keyId).runIn answer w = (some (.ok keys), w₁)) :
    (openFrom keyId challenge peer).runIn answer w = (some (keys.openFrom challenge peer), w₁) := by
  rw [openFrom, Operation.runIn_bind h]
  cases keys.openFrom challenge peer <;> rfl

/-- A challenge is opened or not, and nothing is written. -/
theorem KeysServed.openFrom (hk : KeysServed answer store) (keyId challenge peer : String)
    (w : σ) : ∃ opened w', (Keys.openFrom keyId challenge peer).runIn answer w = (some opened, w') ∧
      store w' = store w := by
  obtain ⟨res, w₁, hfind, h₁⟩ := hk.find? keyId w
  rcases res with e | - | keys
  · have herror : (Keys.find keyId).runIn answer w = (some (.error e), w₁) :=
      Operation.runIn_bind_error hfind
    exact ⟨_, w₁, Operation.runIn_bind_error herror, h₁⟩
  · have hnone : (Keys.find keyId).runIn answer w = (some (.error (.keyNotFound keyId)), w₁) :=
      Operation.runIn_bind hfind
    exact ⟨_, w₁, Operation.runIn_bind_error hnone, h₁⟩
  · have hfound : (Keys.find keyId).runIn answer w = (some (.ok keys), w₁) :=
      Operation.runIn_bind hfind
    exact ⟨_, w₁, Keys.runIn_openFrom hfound, h₁⟩

/-! ## Changes -/

namespace Undisturbed

variable (h : Undisturbed answer store) {i : Identity} {r : Record} {change : Change}

include h

variable (change) in
/-- A change of a record that is there looks at it and at the clock. -/
theorem revise (hr : (store w).get? i = some r) : ∃ now w₁, store w₁ = store w ∧
    (revise i change).runIn answer w =
      (Operation.ofExcept id (change now r) >>= reviseDecided i change 15 r).runIn answer w₁ := by
  obtain ⟨now, w₁, hclock, h₁⟩ := h.clock w
  have hround : Enrolment.revise i change = reviseWithin i change (15 + 1) := rfl
  refine ⟨now, w₁, h₁, ?_⟩
  rw [hround, reviseWithin_succ, Operation.runIn_ask_bind (h.lookup i w), Store.get, hr,
    Operation.ofStore_ok, pure_bind, Operation.runIn_ask_bind hclock]

/-- A change that is not needed writes nothing. -/
theorem revise_skips (hr : (store w).get? i = some r) (hc : ∀ now, change now r = .ok none) :
    ∃ w₁, (Enrolment.revise i change).runIn answer w = (some (.ok r), w₁) ∧ store w₁ = store w := by
  obtain ⟨now, w₁, h₁, hrun⟩ := h.revise change hr
  refine ⟨w₁, ?_, h₁⟩
  rw [hrun, hc]
  rfl

/-- A change that is needed is written at once. -/
theorem revise_writes {next : Moment → Record} (hr : (store w).get? i = some r)
    (hc : ∀ now, change now r = .ok (some (next now))) (hid : ∀ now, (next now).identity = i) :
    ∃ now w', (Enrolment.revise i change).runIn answer w =
        (some (.ok { next now with version := r.version + 1 }), w') ∧
      (∀ j, (store w').get? j =
        if j = i then some { next now with version := r.version + 1 } else (store w).get? j) ∧
      ∀ keyId, (store w').keys? keyId = (store w).keys? keyId := by
  obtain ⟨now, w₁, h₁, hrun⟩ := h.revise change hr
  obtain ⟨w', hput, h'⟩ := h.replace (next now) r.version w₁
  rw [h₁] at hput h'
  have hstored : (store w).get? (next now).identity = some r := by rw [hid, hr]
  refine ⟨now, w', ?_, fun j => ?_, fun keyId => ?_⟩
  · rw [hrun, hc, Operation.ofExcept_ok, pure_bind, reviseDecided, Operation.runIn_ask_bind hput,
      Store.put_of_some hstored]
    rfl
  · rw [h', Store.get?_put hstored]
    simp only [hid]
  · rw [h', Store.keys?_put]

end Undisturbed

/-! ## Records that wait -/

/-- How many records of a subscriber take a challenge. -/
def Store.awaiting (s : Store) (subscriberId : String) : Nat :=
  s.records.countP fun r => r.identity.subscriberId = subscriberId && r.status.acceptsChallenge

theorem Store.length_filter_ofSubscriber {s : Store} {subscriberId : String} :
    ((s.ofSubscriber subscriberId).filter (·.status.acceptsChallenge)).length =
      s.awaiting subscriberId := by
  rw [← List.countP_eq_length_filter, ofSubscriber, (List.mergeSort_perm _ _).countP_eq,
    List.countP_filter, awaiting]
  refine List.countP_congr fun r _ => ?_
  rw [Bool.and_comm]

namespace Undisturbed

variable {subscriberId : String}

/-- The only record that waits is found, and otherwise none is. -/
theorem findChallenged (h : Undisturbed answer store) (subscriberId : String) (w : σ) :
    ((store w).awaiting subscriberId = 0 →
      (Service.findChallenged subscriberId).runIn answer w =
        (some (.error (.notFound ⟨subscriberId, "*"⟩)), w)) ∧
    ((store w).awaiting subscriberId = 1 → ∃ keyId r,
      (store w).get? ⟨subscriberId, keyId⟩ = some r ∧ r.status.acceptsChallenge = true ∧
        (Service.findChallenged subscriberId).runIn answer w = (some (.ok r), w)) ∧
    (1 < (store w).awaiting subscriberId →
      (Service.findChallenged subscriberId).runIn answer w = (some (.error (.validation
        (.ambiguous subscriberId ((store w).awaiting subscriberId)))), w)) := by
  have hmem (r : Record) :
      r ∈ ((store w).ofSubscriber subscriberId).filter (·.status.acceptsChallenge) ↔
        ((store w).get? r.identity = some r ∧ r.identity.subscriberId = subscriberId) ∧
          r.status.acceptsChallenge = true := by
    rw [List.mem_filter, Store.mem_ofSubscriber]
  rw [Service.findChallenged, Operation.runIn_ask_bind (h.ofSubscriber subscriberId w),
    Operation.ofStore_ok, pure_bind, ← Store.length_filter_ofSubscriber]
  cases hrs : ((store w).ofSubscriber subscriberId).filter (·.status.acceptsChallenge) with
  | nil => exact ⟨fun _ => rfl, nofun, nofun⟩
  | cons r rs =>
    rw [hrs] at hmem
    cases rs with
    | nil =>
      obtain ⟨⟨hr, rfl⟩, hs⟩ := (hmem r).1 List.mem_cons_self
      exact ⟨nofun, fun _ => ⟨r.identity.keyId, r, hr, hs, rfl⟩, fun hlt => absurd hlt (by simp)⟩
    | cons r' rs => exact ⟨nofun, nofun, fun _ => rfl⟩

end Undisturbed

/-! ## Answering a challenge -/

/-- A status takes a challenge, or violates the protocol. -/
theorem permit_challenged_eq (status : Status) : permit status .challenged =
    if status.acceptsChallenge then .ok (.advance .underSubscription)
    else .error (.violation ⟨status, .challenged⟩) := by
  cases status <;> rfl

variable (answer store) in
/-- What becomes of a challenge that is for the record of an identity.  A record
that takes a challenge and holds its answer is left alone, and otherwise only its
status, its answer, its time and its version are changed. -/
structure Service.AnswersFor (s : Service) (i : Identity) (challenge : String) (w : σ) : Prop where
  /-- There is no such record. -/
  unknown (hr : (store w).get? i = none) :
    (s.answerChallenge i.subscriberId (some i.keyId) challenge).runIn answer w =
      (some (.error (.notFound i)), w)
  /-- The record takes no challenge. -/
  refused {r : Record} (hr : (store w).get? i = some r) (hs : r.status.acceptsChallenge = false) :
    (s.answerChallenge i.subscriberId (some i.keyId) challenge).runIn answer w =
      (some (.error (.violation ⟨r.status, .challenged⟩)), w)
  /-- The challenge is blank. -/
  blank {r : Record} (hr : (store w).get? i = some r) (hs : r.status.acceptsChallenge = true)
    (hb : Text.trimmed challenge = "") :
    (s.answerChallenge i.subscriberId (some i.keyId) challenge).runIn answer w =
      (some (.error (.validation (.blank .challenge))), w)
  /-- The keys are used otherwise.  The challenge is opened or not, and nothing is
  written by that. -/
  keys (hk : KeysServed answer store) : ∃ opened w₁,
    (Keys.openFrom i.keyId challenge s.registryKey).runIn answer w = (some opened, w₁) ∧
      store w₁ = store w
  /-- The challenge is not opened, for whatever reason. -/
  unopened {r : Record} {e : ServiceError} {w₁ : σ} (hr : (store w).get? i = some r)
    (hs : r.status.acceptsChallenge = true) (hb : Text.trimmed challenge ≠ "")
    (ho : (Keys.openFrom i.keyId challenge s.registryKey).runIn answer w =
      (some (.error e), w₁)) :
    ∃ d, (s.answerChallenge i.subscriberId (some i.keyId) challenge).runIn answer w =
      (some (.error (.decryption d)), w₁)
  /-- The challenge holds the empty text. -/
  empty {r : Record} {w₁ : σ} (hr : (store w).get? i = some r)
    (hs : r.status.acceptsChallenge = true) (hb : Text.trimmed challenge ≠ "")
    (ho : (Keys.openFrom i.keyId challenge s.registryKey).runIn answer w = (some (.ok ""), w₁)) :
    (s.answerChallenge i.subscriberId (some i.keyId) challenge).runIn answer w =
      (some (.error (.decryption .emptyAnswer)), w₁)
  /-- The challenge holds a text, which the record holds already. -/
  held {r : Record} {text : String} {w₁ : σ} (hr : (store w).get? i = some r)
    (hb : Text.trimmed challenge ≠ "") (hne : text ≠ "")
    (ho : (Keys.openFrom i.keyId challenge s.registryKey).runIn answer w = (some (.ok text), w₁))
    (hw : store w₁ = store w) (hn : r.Holds text) :
    ∃ w', (s.answerChallenge i.subscriberId (some i.keyId) challenge).runIn answer w =
      (some (.ok text), w') ∧ store w' = store w
  /-- The challenge holds a text, which the record does not hold yet. -/
  kept {r : Record} {text : String} {w₁ : σ} (hr : (store w).get? i = some r)
    (hs : r.status.acceptsChallenge = true) (hb : Text.trimmed challenge ≠ "") (hne : text ≠ "")
    (ho : (Keys.openFrom i.keyId challenge s.registryKey).runIn answer w = (some (.ok text), w₁))
    (hw : store w₁ = store w) (hn : ¬r.Holds text) :
    ∃ now w', (s.answerChallenge i.subscriberId (some i.keyId) challenge).runIn answer w =
        (some (.ok text), w') ∧
      (∀ j, (store w').get? j = if j = i then some { r with
          status := .underSubscription, nonce := some text, updatedAt := now,
          version := r.version + 1 }
        else (store w).get? j) ∧
      ∀ keyId, (store w').keys? keyId = (store w).keys? keyId

/-- Whatever goes wrong, the challenge is not answered. -/
theorem Challenge.asUnanswered_eq_decryption (e : ServiceError) :
    ∃ d, asUnanswered e = .decryption d := by
  cases e <;> exact ⟨_, rfl⟩

namespace Service

variable {s : Service} {i : Identity} {r : Record} {challenge text : String}

/-- The answer to a challenge is the text that it was sealed for, unless that is
empty. -/
theorem runIn_resolve {keyId registryKey : String} {opened : Except ServiceError String}
    (hb : Text.trimmed challenge ≠ "")
    (ho : (Keys.openFrom keyId challenge registryKey).runIn answer w = (some opened, w₁)) :
    (Challenge.resolve registryKey challenge keyId).runIn answer w =
      (some (match opened.mapError Challenge.asUnanswered with
        | .ok text => if text = "" then .error (.decryption .emptyAnswer) else .ok text
        | .error e => .error e), w₁) := by
  rw [Challenge.resolve, if_neg fun h => hb (Text.trimmed_eq_empty_iff.2 h)]
  have hadapt := Operation.runIn_adapt (g := Challenge.asUnanswered) ho
  cases opened with
  | error e => exact Operation.runIn_bind_error hadapt
  | ok text =>
    refine (Operation.runIn_bind hadapt).trans ?_
    dsimp only [Except.mapError]
    split <;> rfl

theorem runIn_resolve_of_ne {keyId registryKey : String} (hb : Text.trimmed challenge ≠ "")
    (hne : text ≠ "")
    (ho : (Keys.openFrom keyId challenge registryKey).runIn answer w = (some (.ok text), w₁)) :
    (Challenge.resolve registryKey challenge keyId).runIn answer w = (some (.ok text), w₁) := by
  rw [runIn_resolve hb ho]
  simp only [Except.mapError, if_neg hne]

section Found

variable (h : Undisturbed answer store) (hr : (store w).get? i = some r)

include h hr

/-- A challenge that is for a record that is there. -/
theorem runIn_answerChallenge :
    (s.answerChallenge i.subscriberId (some i.keyId) challenge).runIn answer w =
      (s.answerFound i.subscriberId challenge r).runIn answer w := by
  rw [answerChallenge_eq, findTarget, bind_assoc, Operation.runIn_ask_bind (h.lookup i w),
    Store.get, hr, Operation.ofStore_ok, pure_bind]

/-- The record takes the challenge. -/
theorem runIn_answerChallenge_of_accepts (hs : r.status.acceptsChallenge = true) :
    (s.answerChallenge i.subscriberId (some i.keyId) challenge).runIn answer w =
      (Challenge.resolve s.registryKey challenge i.keyId >>= fun text =>
        revise i (keepAnswer text) >>= fun _ => pure text).runIn answer w := by
  have hid : r.identity = i := Store.identity_of_get? hr
  rw [runIn_answerChallenge h hr, answerFound, permit_challenged_eq, if_pos hs,
    Operation.ofExcept_ok, pure_bind, hid]

/-- An answer that was given before is given again. -/
theorem runIn_keepAnswer_of_holds (hn : r.Holds text) : ∃ w',
    (revise i (keepAnswer text) >>= fun _ => pure text).runIn answer w = (some (.ok text), w') ∧
      store w' = store w := by
  obtain ⟨w', hrun, hw⟩ := h.revise_skips hr fun _ => keepAnswer_eq_none_iff.2 hn
  exact ⟨w', Operation.runIn_bind hrun, hw⟩

/-- An answer that is new is kept. -/
theorem runIn_keepAnswer (hs : r.status.acceptsChallenge = true) (hn : ¬r.Holds text) :
    ∃ now w',
      (revise i (keepAnswer text) >>= fun _ => pure text).runIn answer w = (some (.ok text), w') ∧
      (∀ j, (store w').get? j = if j = i then some { r with
          status := .underSubscription, nonce := some text, updatedAt := now,
          version := r.version + 1 }
        else (store w).get? j) ∧
      ∀ keyId, (store w').keys? keyId = (store w).keys? keyId := by
  have hid : r.identity = i := Store.identity_of_get? hr
  have hedge : Edge r.status .challenged .underSubscription :=
    permit_eq_advance_iff.1 (by rw [permit_challenged_eq, if_pos hs])
  have hneeded (now : Moment) : keepAnswer text now r =
      .ok (some { r.withStatus .underSubscription now with nonce := some text }) :=
    keepAnswer_eq_some_iff.2 ⟨hedge, fun hheld => hn ⟨hheld.1, hheld.2⟩, rfl⟩
  obtain ⟨now, w', hrun, hwritten⟩ := h.revise_writes hr hneeded fun _ => hid
  exact ⟨now, w', Operation.runIn_bind hrun, hwritten⟩

end Found

/-- What becomes of a challenge for a key. -/
theorem answersFor (h : Undisturbed answer store) (s : Service) (i : Identity)
    (challenge : String) (w : σ) : s.AnswersFor answer store i challenge w where
  unknown hr := by
    rw [answerChallenge_eq, findTarget, bind_assoc, Operation.runIn_ask_bind (h.lookup i w),
      Store.get, hr]
    rfl
  refused hr hs := by
    rw [runIn_answerChallenge h hr, answerFound, permit_challenged_eq, hs]
    rfl
  blank hr hs hb := by
    rw [runIn_answerChallenge_of_accepts h hr hs, Challenge.resolve,
      if_pos (Text.trimmed_eq_empty_iff.1 hb)]
    rfl
  keys hk := hk.openFrom ..
  unopened hr hs hb ho := by
    obtain ⟨d, hd⟩ := Challenge.asUnanswered_eq_decryption _
    refine ⟨d, ?_⟩
    rw [runIn_answerChallenge_of_accepts h hr hs, ← hd]
    exact Operation.runIn_bind_error (runIn_resolve hb ho)
  empty hr hs hb ho := by
    rw [runIn_answerChallenge_of_accepts h hr hs]
    exact Operation.runIn_bind_error (runIn_resolve hb ho)
  held hr hb hne ho hw hn := by
    obtain ⟨w', hrun, hw'⟩ := runIn_keepAnswer_of_holds h (hw ▸ hr) hn
    refine ⟨w', ?_, hw'.trans hw⟩
    rw [runIn_answerChallenge_of_accepts h hr (hn.status ▸ rfl),
      Operation.runIn_bind (runIn_resolve_of_ne hb hne ho), hrun]
  kept hr hs hb hne ho hw hn := by
    obtain ⟨now, w', hrun, hrecords, hkeys⟩ := runIn_keepAnswer h (hw ▸ hr) hs hn
    refine ⟨now, w', ?_, hw ▸ hrecords, hw ▸ hkeys⟩
    rw [runIn_answerChallenge_of_accepts h hr hs,
      Operation.runIn_bind (runIn_resolve_of_ne hb hne ho), hrun]

/-- A challenge for a key is answered or not, and if not, nothing is written. -/
theorem AnswersFor.clean (h : s.AnswersFor answer store i challenge w)
    (hk : KeysServed answer store) : ∃ res w',
    (s.answerChallenge i.subscriberId (some i.keyId) challenge).runIn answer w = (some res, w') ∧
      ∀ e, res = .error e → store w' = store w := by
  cases hr : (store w).get? i with
  | none => exact ⟨_, w, h.unknown hr, fun _ _ => rfl⟩
  | some r =>
  cases hs : r.status.acceptsChallenge with
  | false => exact ⟨_, w, h.refused hr hs, fun _ _ => rfl⟩
  | true =>
  by_cases hb : Text.trimmed challenge = ""
  · exact ⟨_, w, h.blank hr hs hb, fun _ _ => rfl⟩
  obtain ⟨opened, w₁, ho, hw⟩ := h.keys hk
  cases opened with
  | error e =>
    obtain ⟨d, hd⟩ := h.unopened hr hs hb ho
    exact ⟨_, w₁, hd, fun _ _ => hw⟩
  | ok text =>
  by_cases hne : text = ""
  · subst hne
    exact ⟨_, w₁, h.empty hr hs hb ho, fun _ _ => hw⟩
  by_cases hn : r.Holds text
  · obtain ⟨w', hrun, -⟩ := h.held hr hb hne ho hw hn
    exact ⟨_, w', hrun, fun _ he => nomatch he⟩
  · obtain ⟨_, w', hrun, -⟩ := h.kept hr hs hb hne ho hw hn
    exact ⟨_, w', hrun, fun _ he => nomatch he⟩

/-- **What becomes of a challenge that nobody disturbs.**  Without a key it is for
the only record of the subscriber that takes a challenge, and fails if there is
none or more than one.  With a key it fails first if there is no such record, then
if the record takes no challenge, both before the challenge is looked at or the
keys are used; then if the challenge is blank; then if it is not opened, or holds
nothing.  Otherwise its text is returned and kept with the record.  Whatever fails
writes nothing. -/
theorem answerChallenge_undisturbed (h : Undisturbed answer store) (s : Service)
    (subscriberId challenge : String) (w : σ) :
    ((store w).awaiting subscriberId = 0 →
      (s.answerChallenge subscriberId none challenge).runIn answer w =
        (some (.error (.notFound ⟨subscriberId, "*"⟩)), w)) ∧
    ((store w).awaiting subscriberId = 1 → ∃ keyId r,
      (store w).get? ⟨subscriberId, keyId⟩ = some r ∧ r.status.acceptsChallenge = true ∧
        (s.answerChallenge subscriberId none challenge).runIn answer w =
          (s.answerChallenge subscriberId (some keyId) challenge).runIn answer w) ∧
    (1 < (store w).awaiting subscriberId →
      (s.answerChallenge subscriberId none challenge).runIn answer w =
        (some (.error (.validation
          (.ambiguous subscriberId ((store w).awaiting subscriberId)))), w)) ∧
    (∀ keyId, s.AnswersFor answer store ⟨subscriberId, keyId⟩ challenge w) ∧
    (KeysServed answer store → ∀ keyId, ∃ res w',
      (s.answerChallenge subscriberId keyId challenge).runIn answer w = (some res, w') ∧
        ∀ e, res = .error e → store w' = store w) := by
  obtain ⟨hnone, hone, hmany⟩ := h.findChallenged subscriberId w
  -- without a key the record is looked for first, and the rest is as with its key
  have hastray {e : ServiceError}
      (hfind : (findChallenged subscriberId).runIn answer w = (some (.error e), w)) :
      (s.answerChallenge subscriberId none challenge).runIn answer w = (some (.error e), w) := by
    rw [answerChallenge_eq]
    exact Operation.runIn_bind_error hfind
  have hsame (hawaits : (store w).awaiting subscriberId = 1) : ∃ keyId r,
      (store w).get? ⟨subscriberId, keyId⟩ = some r ∧ r.status.acceptsChallenge = true ∧
        (s.answerChallenge subscriberId none challenge).runIn answer w =
          (s.answerChallenge subscriberId (some keyId) challenge).runIn answer w := by
    obtain ⟨keyId, r, hr, hs, hfind⟩ := hone hawaits
    refine ⟨keyId, r, hr, hs, ?_⟩
    rw [runIn_answerChallenge h hr, answerChallenge_eq]
    exact Operation.runIn_bind hfind
  refine ⟨fun hawaits => hastray (hnone hawaits), hsame, fun hawaits => hastray (hmany hawaits),
    fun keyId => answersFor h s ⟨subscriberId, keyId⟩ challenge w, ?_⟩
  rintro hk (_ | keyId)
  · rcases Nat.lt_trichotomy ((store w).awaiting subscriberId) 1 with hlt | heq | hlt
    · exact ⟨_, w, hastray (hnone (Nat.lt_one_iff.1 hlt)), fun _ _ => rfl⟩
    · obtain ⟨keyId, -, -, -, hrun⟩ := hsame heq
      rw [hrun]
      exact (answersFor h s ⟨subscriberId, keyId⟩ challenge w).clean hk
    · exact ⟨_, w, hastray (hmany hlt), fun _ _ => rfl⟩
  · exact (answersFor h s ⟨subscriberId, keyId⟩ challenge w).clean hk

end Service

end Surroundings

/-! ## A process by itself -/

/-- A process that runs by itself is not disturbed. -/
theorem Draws.undisturbed (d : Draws) : Undisturbed d.answer Surroundings.store where
  lookup _ _ := rfl
  ofSubscriber _ _ := rfl
  replace _ _ _ := ⟨_, rfl, rfl⟩
  clock _ := ⟨_, _, rfl, rfl⟩

/-- Its keys are served. -/
theorem Draws.keysServed (d : Draws) : KeysServed d.answer Surroundings.store where
  atHand _ _ := ⟨_, _, rfl, rfl⟩
  stored _ _ := ⟨_, _, rfl, rfl⟩
  keep _ _ _ := ⟨_, rfl, rfl⟩

/-- A challenge without a key, sealed for the key of the only record, is answered.
With whatever key it came, it would write nothing if it failed. -/
theorem answered_undisturbed : ∃ (s s' : Surroundings) (blob : String) (r : Record) (now : Moment),
    s.store.awaiting "subscriber" = 1 ∧ s.store.get? sampleIdentity = some r ∧
    (Service.answerChallenge ⟨World.registryKey, ⟨1, 0, 0, 1, false⟩⟩ "subscriber" none
      blob).runIn Draws.sample.answer s = (some (.ok "answer"), s') ∧
    s'.store.get? sampleIdentity = some { r with
      status := .underSubscription, nonce := some "answer", updatedAt := now,
      version := r.version + 1 } ∧
    ∀ keyId, ∃ res s₁, (Service.answerChallenge ⟨World.registryKey, ⟨1, 0, 0, 1, false⟩⟩
      "subscriber" keyId blob).runIn Draws.sample.answer s = (some res, s₁) ∧
        ∀ e, res = .error e → s₁.store = s.store := by
  have hawaits : World.unchallenged.surroundings.store.awaiting "subscriber" = 1 := by
    decide +kernel
  have hrecords : World.unchallenged.surroundings.store.records.map
      (fun r => (r.identity, r.status, r.nonce)) = [(sampleIdentity, .initiated, none)] := by
    decide +kernel
  have hkeys : World.unchallenged.surroundings.atHand 0 "key" = some ⟨[], []⟩ := by
    decide +kernel
  obtain ⟨blob, hblob⟩ := World.exists_sealed (List.replicate 12 0) "answer"
  have hfind : (Keys.find "key").runIn Draws.sample.answer World.unchallenged.surroundings =
      (some (.ok ⟨[], []⟩), World.unchallenged.surroundings) :=
    Keys.runIn_find (congrArg (fun keys => (some keys, _)) hkeys)
  have hopened : (Keys.openFrom "key" blob World.registryKey).runIn Draws.sample.answer
      World.unchallenged.surroundings = (some (.ok "answer"), World.unchallenged.surroundings) := by
    rw [Keys.runIn_openFrom hfind, Keyset.openFrom_sealFor hblob rfl rfl]
  have hblank : Text.trimmed blob ≠ "" := fun h => by
    rw [Text.trimmed_eq_empty_iff, Keyset.allBlank_sealFor hblob rfl] at h
    cases h
  obtain ⟨-, hone, -, hwith, hclean⟩ := Service.answerChallenge_undisturbed Draws.sample.undisturbed
    ⟨World.registryKey, ⟨1, 0, 0, 1, false⟩⟩ "subscriber" blob World.unchallenged.surroundings
  obtain ⟨keyId, r, hr, hs, hsame⟩ := hone hawaits
  have hlisted : (r.identity, r.status, r.nonce) = (sampleIdentity, .initiated, none) := by
    have hmem : r ∈ World.unchallenged.surroundings.store.records :=
      Store.mem_records_iff.2 (Store.identity_of_get? hr ▸ hr)
    exact List.mem_singleton.1 (hrecords ▸ List.mem_map_of_mem hmem)
  obtain ⟨hid, hlisted⟩ := Prod.mk.inj hlisted
  obtain rfl : keyId = "key" := congrArg Identity.keyId ((Store.identity_of_get? hr).symm.trans hid)
  obtain ⟨now, s', hrun, hrecords', -⟩ := (hwith "key").kept hr hs hblank (by decide) hopened rfl
    fun hheld => nomatch hheld.nonce.symm.trans (Prod.mk.inj hlisted).2
  exact ⟨_, s', blob, r, now, hawaits, hr, hsame.trans hrun,
    (hrecords' sampleIdentity).trans (if_pos rfl), hclean Draws.sample.keysServed⟩

end Enrolment
