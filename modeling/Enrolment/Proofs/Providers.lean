import Enrolment.Proofs.Keyring
import Enrolment.Proofs.Schedule

/-!
# Providers of keys

Any number of providers serve keys out of one store, and each keeps at hand what
it has found.  Looking at what is at hand, looking into the store, drawing a
keyset, offering it and keeping the one that is stored are single steps, and
between two of them anything may happen to the others.  A provider may start at
any time, as after a restart, and has nothing at hand then.

## Main definitions

* `Providers`, `Providers.Step` — providers over one store, and their steps.
* `Providers.Faithful` — everything at hand and everything served is stored.
* `contested` — two providers that draw keysets for one key.

## Main statements

* `Providers.Step.sound` — every step keeps what providers rely on.
* `Providers.Leads.sound` — so does every run.
* `Providers.Leads.grows` — no keyset is replaced.
-/

namespace Enrolment

open Keys (Use)

/-! ## What is at hand -/

namespace Surroundings

variable {s s' : Surroundings} {p : Nat} {ask : Ask} {reply : ask.Reply}

/-- Keysets at hand are stored. -/
def Backed (s : Surroundings) : Prop :=
  ∀ process ∈ s.processes, ∀ keyId keys,
    process.atHand.lookup keyId = some keys → s.store.keys? keyId = some keys

/-- What the surroundings answer about keys is what is stored. -/
theorem Backed.answers (h : s.Backed) (ha : s.Answers p ask reply s') :
    Keyring.Answers s.store.keys? ask reply s'.store.keys? := by
  cases ask with
  | storedKeys keyId =>
    obtain ⟨rfl, rfl⟩ := ha
    exact ⟨rfl, rfl⟩
  | offerKeys keyId keys =>
    obtain ⟨rfl, rfl⟩ := ha
    refine ⟨by rw [Store.offerKeys_fst], ?_⟩
    funext k
    exact Store.keys?_offerKeys
  | keysAtHand keyId =>
    obtain ⟨rfl, rfl⟩ := ha
    refine ⟨?_, rfl⟩
    intro keys hk
    obtain ⟨process, hp, hl⟩ := Option.bind_eq_some_iff.1 hk
    exact h process (List.mem_of_getElem? hp) keyId keys hl
  | insert r =>
    obtain ⟨-, rfl⟩ := ha
    funext k
    exact Store.keys?_create
  | replace r expected =>
    obtain ⟨-, rfl⟩ := ha
    funext k
    exact Store.keys?_put
  | lookup | ofSubscriber | withStatus | chance =>
    obtain ⟨-, rfl⟩ := ha
    rfl
  | keepKeys | freshKeys | freshName | clock | pause | call | schedule =>
    obtain rfl := ha
    rfl

/-- Keysets at hand stay stored, as long as only keysets that are stored are kept
at hand. -/
theorem Backed.answered (h : s.Backed) (ha : s.Answers p ask reply s')
    (hk : ∀ keyId keys, ask = .keepKeys keyId keys → s.store.keys? keyId = some keys) :
    s'.Backed := by
  have hgrows : Keyring.Grows s.store.keys? s'.store.keys? := (h.answers ha).grows
  have hsame (hp : s'.processes = s.processes) : s'.Backed := by
    intro process hmem keyId keys hl
    exact hgrows keyId keys (h process (hp ▸ hmem) keyId keys hl)
  cases ask with
  | keepKeys keyId keys =>
    obtain rfl := ha
    intro process hmem k ks hl
    rcases lookup_keep hmem hl with ⟨rfl, rfl⟩ | ⟨old, hold, hl⟩
    · exact hk _ _ rfl
    · exact h old hold k ks hl
  | insert | replace | lookup | ofSubscriber | withStatus | storedKeys | offerKeys | keysAtHand
  | chance =>
    obtain ⟨-, rfl⟩ := ha
    exact hsame rfl
  | freshKeys | freshName | clock | pause | call | schedule =>
    obtain rfl := ha
    exact hsame rfl

end Surroundings

/-! ## Providers over one store -/

/-- A use that was asked of a provider, and what is left of its plan. -/
structure Using where
  /-- The provider. -/
  provider : Nat
  /-- The use. -/
  use : Use
  /-- What is left. -/
  rest : Plan (Except ServiceError use.Result)

/-- A keyset that was offered for a key. -/
structure Offer where
  /-- The number of uses before the one that offered it. -/
  number : Nat
  /-- The key. -/
  keyId : String
  /-- The keyset. -/
  keys : Keyset

/-- What a use offers when it asks. -/
def Ask.offers (number : Nat) : Ask → List Offer
  | offerKeys keyId keys => [⟨number, keyId, keys⟩]
  | _ => []

/-- The keyset that was offered first. -/
def firstOffer (offers : List Offer) (keyId : String) : Option Keyset :=
  (offers.find? (·.keyId = keyId)).map Offer.keys

/-- Providers over one store, what was asked of them, and the keysets that were
offered, the first one first. -/
structure Providers where
  /-- The store and the providers. -/
  surroundings : Surroundings
  /-- The uses in the order in which they were asked for. -/
  running : List Using
  /-- The keysets that were offered. -/
  offers : List Offer

namespace Providers

/-- No provider yet. -/
def ofStore (s : Store) : Providers := ⟨⟨s, []⟩, [], []⟩

/-- The stored keysets. -/
def keyring (ps : Providers) : Keyring := ps.surroundings.store.keys?

/-- A provider starts. -/
def start (ps : Providers) (s : Service) : Providers :=
  { ps with surroundings.processes := ps.surroundings.processes ++ [⟨s, []⟩] }

/-- A provider is asked for a use. -/
def begin (ps : Providers) (p : Nat) (u : Use) : Providers :=
  { ps with running := ps.running ++ [⟨p, u, u.operation.run⟩] }

/-- An ask of the use of a number is answered. -/
def answer (ps : Providers) (n p : Nat) (u : Use) (ask : Ask)
    (rest : Plan (Except ServiceError u.Result)) (s : Surroundings) : Providers :=
  ⟨s, ps.running.set n ⟨p, u, rest⟩, ps.offers ++ ask.offers n⟩

/-- One step. -/
inductive Step : Providers → Providers → Prop
  /-- A provider is asked for a use. -/
  | use {ps : Providers} {p : Nat} (u : Use) (hp : p < ps.surroundings.processes.length) :
      Step ps (ps.begin p u)
  /-- A use asks and is answered. -/
  | answer {ps : Providers} {n p : Nat} {u : Use} {ask : Ask}
      {next : ask.Reply → Plan (Except ServiceError u.Result)} {reply : ask.Reply}
      {s : Surroundings} (hr : ps.running[n]? = some ⟨p, u, .step ask next⟩)
      (ha : ps.surroundings.Answers p ask reply s) :
      Step ps (ps.answer n p u ask (next reply) s)
  /-- A provider starts. -/
  | start {ps : Providers} (s : Service) : Step ps (ps.start s)

/-- A run leads from the one to the other. -/
def Leads : Providers → Providers → Prop := Relation.ReflTransGen Step

/-- The keyset of a key is the one that was there when the run began, or else
the first one that was offered, and only to ensure that the key has a keyset one
was offered.  Everything at hand is stored. -/
structure Coherent (s : Store) (ps : Providers) : Prop where
  /-- The first keyset stays. -/
  stored : ∀ keyId, ps.keyring keyId = (s.keys? keyId).or (firstOffer ps.offers keyId)
  /-- Keysets are offered to ensure that a key has one. -/
  offered : ∀ o ∈ ps.offers, ∃ x, ps.running[o.number]? = some x ∧ x.use = .ensure o.keyId
  /-- Keysets at hand are stored. -/
  backed : ps.surroundings.Backed

/-- Every use that succeeded comes of the keyset that is stored for its key. -/
structure Faithful (s : Store) (ps : Providers) : Prop extends ps.Coherent s where
  /-- What was served is of the stored keyset. -/
  served : ∀ x ∈ ps.running, ∀ a, x.rest = .done (.ok a) →
    ∃ keys, ps.keyring x.use.keyId = some keys ∧ x.use.outcome keys = .ok a

/-- What every step keeps. -/
structure Sound (s : Store) (ps : Providers) : Prop extends ps.Coherent s where
  /-- What is left of a use comes to what the stored keyset says. -/
  serves : ∀ x ∈ ps.running, x.rest.Serves x.use x.use.Served ps.keyring

variable {s : Store} {ps ps' : Providers}

theorem sound_ofStore (s : Store) : (ofStore s).Sound s where
  stored keyId := by simp [ofStore, keyring, firstOffer]
  offered := nofun
  backed := nofun
  serves := nofun

theorem Sound.faithful (h : ps.Sound s) : ps.Faithful s := by
  refine ⟨h.toCoherent, ?_⟩
  intro x hx a hrest
  have hserves := h.serves x hx
  rw [hrest] at hserves
  exact hserves a rfl

/-! ## Steps -/

/-- A use that is new serves. -/
theorem Sound.begin (h : ps.Sound s) (p : Nat) (u : Use) : (ps.begin p u).Sound s := by
  refine ⟨⟨h.stored, ?_, h.backed⟩, ?_⟩
  · intro o ho
    obtain ⟨x, hx, hu⟩ := h.offered o ho
    obtain ⟨hlt, -⟩ := List.getElem?_eq_some_iff.1 hx
    exact ⟨x, (List.getElem?_append_left hlt).trans hx, hu⟩
  · intro x hx
    rcases List.mem_append.1 hx with hx | hx
    · exact h.serves x hx
    · obtain rfl := List.mem_singleton.1 hx
      exact u.serves_operation ps.keyring

/-- The first offer stays the first one. -/
theorem firstOffer_append (offers : List Offer) (n : Nat) {ask : Ask} {κ κ' : Keyring}
    {reply : ask.Reply} {before : Option Keyset} {keyId : String}
    (h : κ.Answers ask reply κ') (hκ : κ keyId = before.or (firstOffer offers keyId)) :
    κ' keyId = before.or (firstOffer (offers ++ ask.offers n) keyId) := by
  have hfirst : firstOffer (offers ++ ask.offers n) keyId =
      (firstOffer offers keyId).or (firstOffer (ask.offers n) keyId) := by
    rw [firstOffer, List.find?_append, Option.map_or]
    rfl
  rw [hfirst, ← Option.or_assoc, ← hκ]
  cases ask with
  | offerKeys k keys =>
    obtain ⟨-, rfl⟩ := h
    by_cases hk : k = keyId
    · simp [firstOffer, Ask.offers, hk]
    · simp [firstOffer, Ask.offers, hk, Ne.symm hk]
  | storedKeys | keysAtHand =>
    obtain ⟨-, rfl⟩ := h
    simp [firstOffer, Ask.offers]
  | _ =>
    obtain rfl := h
    simp [firstOffer, Ask.offers]

/-- After an answer there is the use that goes on, and there are the others. -/
theorem mem_running_answer {n p : Nat} {u : Use} {ask : Ask}
    {rest : Plan (Except ServiceError u.Result)} {s : Surroundings} {x : Using}
    (hx : x ∈ (ps.answer n p u ask rest s).running) : x = ⟨p, u, rest⟩ ∨ x ∈ ps.running := by
  obtain ⟨k, hk⟩ := List.getElem?_of_mem hx
  simp only [Providers.answer, List.getElem?_set] at hk
  split at hk
  · split at hk
    · exact .inl (Option.some.inj hk).symm
    · cases hk
  · exact .inr (List.mem_of_getElem? hk)

/-- An answer keeps everything. -/
theorem Sound.answer (h : ps.Sound s) {n p : Nat} {u : Use} {ask : Ask}
    {next : ask.Reply → Plan (Except ServiceError u.Result)} {reply : ask.Reply}
    {after : Surroundings} (hr : ps.running[n]? = some ⟨p, u, .step ask next⟩)
    (ha : ps.surroundings.Answers p ask reply after) :
    (ps.answer n p u ask (next reply) after).Sound s := by
  have hanswers := h.backed.answers ha
  obtain ⟨hallows, hnext⟩ := h.serves _ (List.mem_of_getElem? hr) ps.keyring (.refl _)
  have huses (m : Nat) (x : Using) (hm : ps.running[m]? = some x) :
      ∃ x', (ps.answer n p u ask (next reply) after).running[m]? = some x' ∧ x'.use = x.use := by
    by_cases hnm : n = m
    · subst hnm
      obtain ⟨hlt, -⟩ := List.getElem?_eq_some_iff.1 hr
      rw [hr] at hm
      obtain rfl := Option.some.inj hm
      exact ⟨_, List.getElem?_set_self hlt, rfl⟩
    · exact ⟨x, (List.getElem?_set_ne hnm).trans hm, rfl⟩
  refine ⟨⟨?_, ?_, ?_⟩, ?_⟩
  · intro keyId
    exact firstOffer_append ps.offers n hanswers (h.stored keyId)
  · intro o ho
    rcases List.mem_append.1 ho with ho | ho
    · obtain ⟨x, hx, hu⟩ := h.offered o ho
      obtain ⟨x', hx', hu'⟩ := huses o.number x hx
      exact ⟨x', hx', hu'.trans hu⟩
    · cases ask with
      | offerKeys keyId keys =>
        obtain rfl := List.mem_singleton.1 ho
        obtain ⟨x', hx', hu'⟩ := huses n _ hr
        exact ⟨x', hx', hu'.trans hallows⟩
      | _ => cases ho
  · refine h.backed.answered ha ?_
    rintro keyId keys rfl
    exact hallows
  · intro x hx
    rcases mem_running_answer hx with rfl | hx
    · exact hnext reply _ hanswers
    · exact (h.serves x hx).grow x.use.lasting_served hanswers.grows

/-- Every step keeps everything. -/
theorem Step.sound (hs : ps.Step ps') (h : ps.Sound s) : ps'.Sound s := by
  cases hs with
  | use u _ => exact h.begin _ u
  | answer hr ha => exact h.answer hr ha
  | start service =>
    refine ⟨⟨h.stored, h.offered, ?_⟩, h.serves⟩
    intro process hp keyId keys hl
    rcases List.mem_append.1 hp with hp | hp
    · exact h.backed process hp keyId keys hl
    · obtain rfl := List.mem_singleton.1 hp
      cases hl

/-- No step replaces a keyset. -/
theorem Step.grows (hs : ps.Step ps') (h : ps.Sound s) : ps.keyring.Grows ps'.keyring := by
  cases hs with
  | use | start => exact .refl _
  | answer _ ha => exact (h.backed.answers ha).grows

/-! ## Runs -/

theorem Leads.sound (hl : ps.Leads ps') (h : ps.Sound s) : ps'.Sound s := by
  induction hl with
  | refl => exact h
  | tail _ hs ih => exact hs.sound ih

/-- No keyset is replaced. -/
theorem Leads.grows (hl : ps.Leads ps') (h : ps.Sound s) : ps.keyring.Grows ps'.keyring := by
  induction hl with
  | refl => exact .refl _
  | tail hl hs ih => exact ih.trans (hs.grows (Leads.sound hl h))

/-! ## Runs that are carried out -/

/-- Answer the use of a number, if it asks. -/
def next (ps : Providers) (n : Nat) (d : Draws) : Providers :=
  match ps.running[n]? with
  | some ⟨p, u, .step ask rest⟩ =>
    let (reply, s) := ps.surroundings.respond d p ask
    ps.answer n p u ask (rest reply) s
  | _ => ps

/-- Answer one use after another. -/
def play (ps : Providers) (moves : List (Nat × Draws)) : Providers :=
  moves.foldl (fun ps (n, d) => ps.next n d) ps

/-- Answers are a run. -/
theorem leads_play (ps : Providers) (moves : List (Nat × Draws)) : ps.Leads (ps.play moves) := by
  induction moves generalizing ps with
  | nil => exact .refl
  | cons move moves ih =>
    refine .trans ?_ (ih (ps.next move.1 move.2))
    unfold next
    split
    · rename_i p u ask rest hr
      exact .single (.answer hr (ps.surroundings.respond_answers move.2 p ask))
    · exact .refl

/-- Two providers are asked to ensure that one key has a keyset. -/
def contenders : Providers :=
  ((((ofStore .empty).start .sample).start .sample).begin 0 (.ensure "key")).begin 1 (.ensure "key")

theorem leads_contenders : (ofStore .empty).Leads contenders := by
  have hstart (ps : Providers) : ps.Leads (ps.start .sample) := .single (.start .sample)
  have hbegin (ps : Providers) {p : Nat} (hp : p < ps.surroundings.processes.length) :
      ps.Leads (ps.begin p (.ensure "key")) := .single (.use _ hp)
  exact (((hstart _).trans (hstart _)).trans (hbegin _ (by decide))).trans (hbegin _ (by decide))

/-- Both find none and draw one, and the second provider offers its own first. -/
def contested : Providers :=
  let later := { Draws.sample with keys := ⟨[1], [1]⟩ }
  contenders.play (List.replicate 3 (0, .sample) ++ List.replicate 5 (1, later) ++
    List.replicate 2 (0, .sample))

end Providers

end Enrolment
