import Enrolment.Proofs.Header
import Enrolment.Proofs.Keysets
import Enrolment.Proofs.OneRound
import Enrolment.Proofs.Texts.Padding

/-!
# What may be registered

The checks walk over texts from left to right and stop at the first fault.  What
they let pass is said here without them: how long a text may be, which characters
may stand in it, and of which parts an address consists.  A new record is made
exactly of parts that are admissible, and a registration that failed is replaced
exactly by such parts; the identity is not looked at again then.

## Main definitions

* `IsLabel`, `IsWebAddress` — texts that may be given.
* `Identity.Admissible`, `Payload.Admissible` — what may be registered.

## Main statements

* `Identity.check_eq_ok_iff`, `checkRole_eq_ok_iff`, `Payload.check_eq_ok_iff` —
  each check lets pass exactly what is admissible.
* `admission_iff` — what may be registered, and what a registration may be
  replaced by.
-/

namespace Enrolment

/-! ## What is admissible -/

/-- The text is not blank, and takes a limited number of bytes. -/
structure IsLabel (most : Nat) (s : String) : Prop where
  /-- A character is not blank. -/
  visible : ∃ c ∈ s.toList, Text.isBlank c = false
  /-- The text is short. -/
  short : s.utf8ByteSize ≤ most

/-- The identity can be registered and named in a header. -/
structure Identity.Admissible (i : Identity) : Prop where
  /-- The subscriber has a name, -/
  subscriber : IsLabel 255 i.subscriberId ∧ '|' ∉ i.subscriberId.toList
  /-- and so has the key. -/
  key : IsLabel 255 i.keyId ∧ '|' ∉ i.keyId.toList

/-- What an address of the web may begin with. -/
def webSchemes : List String := ["http://", "https://"]

/-- What may follow the host of an address. -/
def hostDelimiters : List Char := ['/', '?', '#']

/-- The text is an absolute address of the web: a scheme and a host, and then
nothing or something that a delimiter begins. -/
structure IsWebAddress (url : String) : Prop where
  /-- Its parts. -/
  parts : ∃ scheme host rest : String, url = scheme ++ host ++ rest ∧ scheme ∈ webSchemes ∧
    host ≠ "" ∧ (∀ c ∈ host.toList, c ∉ hostDelimiters) ∧
    ∀ c ∈ rest.toList.head?, c ∈ hostDelimiters
  /-- No character is blank. -/
  unblank : ∀ c ∈ url.toList, Text.isBlank c = false

/-- The payload can be registered. -/
structure Payload.Admissible (p : Payload) : Prop where
  /-- The subscriber can be reached in the web. -/
  url : IsWebAddress p.url
  /-- The domain is not blank. -/
  domain : ∃ c ∈ p.domain.toList, Text.isBlank c = false
  /-- The registration starts to hold before it ceases to. -/
  period : ∀ start finish, p.validFrom = some start → p.validUntil = some finish →
    start.ordinal < finish.ordinal

/-- The record after its registration was made again with another role and
payload. -/
def Record.madeAgain (r : Record) (role : String) (payload : Payload) (now : Moment) : Record :=
  { r with
    role := role
    status := .initiated
    payload := payload
    nonce := none
    messageId := none
    updatedAt := now
    version := r.version + 1 }

/-! ## Texts -/

/-- A text takes as many bytes as its characters do. -/
theorem Text.byteLength_eq (s : String) : byteLength s = s.utf8ByteSize := by
  rw [byteLength, bytesOf, encode, ← String.size_toByteArray, ← String.utf8Encode_toList,
    List.utf8Encode, List.size_toByteArray]

theorem Text.allBlank_eq_false_iff {s : String} :
    allBlank s = false ↔ ∃ c ∈ s.toList, isBlank c = false := by
  simp [allBlank]

theorem checkLength_eq_ok_iff {field : Field} {most : Nat} {s : String} :
    checkLength field most s = .ok () ↔ IsLabel most s := by
  unfold checkLength
  rw [Text.byteLength_eq]
  by_cases hblank : Text.allBlank s = true
  · have hnone : ¬IsLabel most s := fun h => by
      simp [Text.allBlank_eq_false_iff.2 h.visible] at hblank
    simp [hblank, hnone]
  · have hvisible := Text.allBlank_eq_false_iff.1 (Bool.eq_false_iff.2 hblank)
    by_cases hlong : most < s.utf8ByteSize
    · have hnone : ¬IsLabel most s := fun h => Nat.not_le.2 hlong h.short
      simp [hblank, hlong, hnone]
    · have hlabel : IsLabel most s := ⟨hvisible, Nat.not_lt.1 hlong⟩
      simp [hblank, hlong, hlabel]

theorem checkPart_eq_ok_iff {field : Field} {s : String} :
    checkPart field s = .ok () ↔ IsLabel 255 s ∧ '|' ∉ s.toList := by
  unfold checkPart
  rw [bind_eq_ok_iff]
  constructor
  · intro ⟨_, hlength, hbar⟩
    refine ⟨checkLength_eq_ok_iff.1 hlength, fun hmem => ?_⟩
    rw [if_pos hmem] at hbar
    cases hbar
  · intro ⟨hlabel, hbar⟩
    exact ⟨(), checkLength_eq_ok_iff.2 hlabel, if_neg hbar⟩

theorem Identity.check_eq_ok_iff {i : Identity} : i.check = .ok () ↔ i.Admissible := by
  unfold Identity.check
  rw [bind_eq_ok_iff]
  constructor
  · intro ⟨_, hsubscriber, hkey⟩
    exact ⟨checkPart_eq_ok_iff.1 hsubscriber, checkPart_eq_ok_iff.1 hkey⟩
  · intro h
    exact ⟨(), checkPart_eq_ok_iff.2 h.subscriber, checkPart_eq_ok_iff.2 h.key⟩

theorem checkRole_eq_ok_iff {role : String} : checkRole role = .ok () ↔ IsLabel 64 role :=
  checkLength_eq_ok_iff

/-! ## Addresses -/

theorem endsHost_eq (c : Char) : endsHost c = decide (c ∈ hostDelimiters) := by
  simp [endsHost, hostDelimiters, Bool.or_assoc]

/-- The rest of an address stands after its scheme. -/
theorem afterScheme_eq_some_iff {cs rest : List Char} : afterScheme cs = some rest ↔
    ∃ scheme ∈ webSchemes, cs = scheme.toList ++ rest := by
  simp only [webSchemes, List.mem_cons, List.not_mem_nil, or_false, exists_eq_or_imp,
    exists_eq_left]
  unfold afterScheme
  constructor
  · intro h
    cases hsecure : Text.afterPrefix "https://".toList cs with
    | some found =>
      rw [hsecure] at h
      exact .inr (Option.some.inj h ▸ Text.eq_append_of_afterPrefix hsecure)
    | none =>
      rw [hsecure] at h
      exact .inl (Text.eq_append_of_afterPrefix h)
  · intro h
    rcases h with rfl | rfl <;> rfl

/-- The host ends at the first delimiter. -/
theorem takeWhile_host {host rest : List Char} (hhost : ∀ c ∈ host, c ∉ hostDelimiters)
    (hrest : ∀ c ∈ rest.head?, c ∈ hostDelimiters) :
    (host ++ rest).takeWhile (fun c => !endsHost c) = host := by
  have hkept : ∀ c ∈ host, (!endsHost c) = true := by
    intro c hc
    simpa [endsHost_eq] using hhost c hc
  have hstop : rest.takeWhile (fun c => !endsHost c) = [] := by
    cases rest with
    | nil => rfl
    | cons c more => simpa [endsHost_eq] using hrest c
  rw [List.takeWhile_append_of_pos hkept, hstop, List.append_nil]

/-- Everything is a host and what a delimiter begins. -/
theorem exists_host (cs : List Char) : ∃ rest,
    cs = cs.takeWhile (fun c => !endsHost c) ++ rest ∧
    (∀ c ∈ cs.takeWhile (fun c => !endsHost c), c ∉ hostDelimiters) ∧
    ∀ c ∈ rest.head?, c ∈ hostDelimiters := by
  refine ⟨cs.dropWhile fun c => !endsHost c, List.takeWhile_append_dropWhile.symm, ?_, ?_⟩
  · intro c hc
    simpa [endsHost_eq] using List.mem_takeWhile_imp hc
  · intro c hc
    have hstop := List.head?_dropWhile_not (fun c => !endsHost c) cs
    rw [Option.mem_def.1 hc] at hstop
    simpa [endsHost_eq] using hstop

/-- An address passes if it has a scheme and a host and no blank characters. -/
theorem checkUrl_eq_ok_iff_afterScheme {url : String} : checkUrl url = .ok () ↔
    ∃ after, afterScheme url.toList = some after ∧
      after.takeWhile (fun c => !endsHost c) ≠ [] ∧ ∀ c ∈ url.toList, Text.isBlank c = false := by
  unfold checkUrl
  cases afterScheme url.toList with
  | none => simp
  | some after => simp

/-- The check lets pass the absolute addresses of the web. -/
theorem checkUrl_eq_ok_iff {url : String} : checkUrl url = .ok () ↔ IsWebAddress url := by
  rw [checkUrl_eq_ok_iff_afterScheme]
  constructor
  · intro ⟨after, hafter, hne, hunblank⟩
    obtain ⟨scheme, hscheme, hurl⟩ := afterScheme_eq_some_iff.1 hafter
    obtain ⟨rest, hsplit, hhost, hrest⟩ := exists_host after
    let host := String.ofList (after.takeWhile fun c => !endsHost c)
    have hparts : url = scheme ++ host ++ String.ofList rest := by
      rw [← String.toList_inj, hurl]
      simpa [host] using hsplit
    refine ⟨⟨scheme, host, String.ofList rest, hparts, hscheme, ?_, ?_, ?_⟩, hunblank⟩
    · simpa [host] using hne
    · simpa [host] using hhost
    · simpa using hrest
  · intro ⟨⟨scheme, host, rest, hurl, hscheme, hne, hhost, hrest⟩, hunblank⟩
    refine ⟨host.toList ++ rest.toList, ?_, ?_, hunblank⟩
    · exact afterScheme_eq_some_iff.2 ⟨scheme, hscheme, by simp [hurl]⟩
    · rw [takeWhile_host hhost hrest]
      simpa using hne

/-! ## Payloads -/

theorem checkPeriod_eq_ok_iff {validFrom validUntil : Option Moment} :
    checkPeriod validFrom validUntil = .ok () ↔ ∀ start finish, validFrom = some start →
      validUntil = some finish → start.ordinal < finish.ordinal := by
  unfold checkPeriod
  cases validFrom with
  | none => simp
  | some start =>
    cases validUntil with
    | none => simp
    | some finish => simp [Moment.precedes]

theorem Payload.check_eq_ok_iff {p : Payload} : p.check = .ok () ↔ p.Admissible := by
  unfold Payload.check
  rw [bind_eq_ok_iff]
  constructor
  · intro ⟨_, hurl, hrest⟩
    by_cases hblank : Text.allBlank p.domain = true
    · rw [if_pos hblank] at hrest
      cases hrest
    · rw [if_neg hblank] at hrest
      exact ⟨checkUrl_eq_ok_iff.1 hurl, Text.allBlank_eq_false_iff.1 (Bool.eq_false_iff.2 hblank),
        checkPeriod_eq_ok_iff.1 hrest⟩
  · intro h
    refine ⟨(), checkUrl_eq_ok_iff.2 h.url, ?_⟩
    rw [Text.allBlank_eq_false_iff.2 h.domain, if_neg Bool.false_ne_true]
    exact checkPeriod_eq_ok_iff.2 h.period

/-! ## Registrations that are replaced -/

namespace Service

variable {i : Identity} {r : Record} {role : String} {payload : Payload} {p : Nat} {t : Stage}
  {keys : Keyset}

/-- What may not be registered replaces nothing, and nobody is asked about it. -/
theorem update_of_not_admissible (i : Identity)
    (h : ¬(IsLabel 64 role ∧ payload.Admissible)) :
    ∃ e, update i role payload = throw (.validation e) := by
  rw [← checkRole_eq_ok_iff, ← Payload.check_eq_ok_iff] at h
  unfold update
  cases hrole : checkRole role with
  | error e => exact ⟨e, rfl⟩
  | ok _ =>
    cases hpayload : payload.check with
    | error e => exact ⟨e, rfl⟩
    | ok _ => exact absurd ⟨hrole, hpayload⟩ h

/-- What may be registered replaces a registration that failed, if its keyset is
found. -/
theorem solo_update (hrole : IsLabel 64 role) (hpayload : payload.Admissible)
    (hr : t.store.get? i = some r) (hs : r.status = .invalid ∨ r.status = .invalidSsl)
    (hk : t.surroundings.found p i.keyId = some keys) : ∃ now t₁,
    (update i role payload).solo p t = (.ok (r.madeAgain role payload now), t₁) ∧
      t.Replaces i (r.madeAgain role payload now) t₁ := by
  have hedge : Edge r.status .reRegistered .initiated := by
    rcases hs with hs | hs
    · exact hs ▸ .reRegistered
    · exact hs ▸ .certificateRenewed
  have hneeded (now : Moment) : makeAgain role payload now r =
      .ok (some { r.withStatus .initiated now with
        role := role, payload := payload, messageId := none }) :=
    makeAgain_eq_some_iff.2 ⟨hedge, rfl⟩
  have hid : r.identity = i := Store.identity_of_get? hr
  have hkeys : (Keys.publicKeys i.keyId).solo p t = (.ok keys.publicKeys, t.warm p i.keyId) := by
    rw [Keys.solo_publicKeys, hk]
    rfl
  have hwarm : (t.warm p i.keyId).store.get? i = some r := by
    rw [Stage.warm, Stage.store, Surroundings.store_warm, hr]
  obtain ⟨now, t₁, hrevise, hrecords, -⟩ :=
    (Stage.undisturbed p).revise_writes hwarm hneeded fun _ => hid
  refine ⟨now, ⟨t₁.lot.after (.schedule (r.madeAgain role payload now) .update), t₁.surroundings⟩,
    ?_, ?_⟩
  · unfold update
    rw [checkRole_eq_ok_iff.2 hrole, Payload.check_eq_ok_iff.2 hpayload, Operation.ofExcept_ok,
      pure_bind, pure_bind, Operation.solo_ask_bind]
    simp only [Stage.respond, Surroundings.respond, Store.get, hr, Operation.ofStore_ok, pure_bind]
    refine (Operation.solo_bind_ok hkeys).trans ?_
    exact Operation.solo_bind_ok (Operation.solo_of_runIn hrevise)
  · intro j
    refine (hrecords j).trans ?_
    rw [Stage.warm, Stage.store, Surroundings.store_warm]
    rfl

/-- A registration that failed is replaced by what may be registered, and by
nothing else. -/
theorem update_iff (role : String) (payload : Payload) (hr : t.store.get? i = some r)
    (hs : r.status = .invalid ∨ r.status = .invalidSsl)
    (hk : t.surroundings.found p i.keyId = some keys) :
    ((∃ now t₁, (update i role payload).solo p t = (.ok (r.madeAgain role payload now), t₁) ∧
      t.Replaces i (r.madeAgain role payload now) t₁) ↔ IsLabel 64 role ∧ payload.Admissible) ∧
    ((∃ e, update i role payload = throw (.validation e)) ↔
      ¬(IsLabel 64 role ∧ payload.Admissible)) := by
  have hexclusive (hdone : ∃ now t₁, (update i role payload).solo p t =
      (.ok (r.madeAgain role payload now), t₁) ∧ t.Replaces i (r.madeAgain role payload now) t₁)
      (hfault : ∃ e, update i role payload = throw (.validation e)) : False := by
    obtain ⟨now, t₁, hrun, -⟩ := hdone
    obtain ⟨e, he⟩ := hfault
    rw [he] at hrun
    cases hrun
  by_cases h : IsLabel 64 role ∧ payload.Admissible
  · have hdone := solo_update h.1 h.2 hr hs hk
    exact ⟨iff_of_true hdone h, iff_of_false (hexclusive hdone) (not_not_intro h)⟩
  · have hfault := update_of_not_admissible i h
    exact ⟨iff_of_false (hexclusive · hfault) h, iff_of_true hfault h⟩

end Service

/-! ## What may be registered -/

/-- A record is made of admissible parts. -/
theorem Record.make_eq_ok_iff_admissible {i : Identity} {role : String} {payload : Payload}
    {now : Moment} {r : Record} : Record.make i role payload now = .ok r ↔
      (i.Admissible ∧ IsLabel 64 role ∧ payload.Admissible) ∧
        r = ⟨i, role, .initiated, payload, none, none, now, now, 0⟩ := by
  rw [Record.make_eq_ok_iff, Identity.check_eq_ok_iff, checkRole_eq_ok_iff, Payload.check_eq_ok_iff,
    eq_comm (a := r)]
  rfl

/-- Of anything else no record is made. -/
theorem Record.make_eq_error_iff {i : Identity} {role : String} {payload : Payload}
    {now : Moment} : (∃ e, Record.make i role payload now = .error e) ↔
      ¬(i.Admissible ∧ IsLabel 64 role ∧ payload.Admissible) := by
  constructor
  · intro ⟨e, he⟩ hadmissible
    rw [Record.make_eq_ok_iff_admissible.2 ⟨hadmissible, rfl⟩] at he
    cases he
  · intro hfault
    cases hmake : Record.make i role payload now with
    | ok r => exact absurd (Record.make_eq_ok_iff_admissible.1 hmake).1 hfault
    | error e => exact ⟨e, rfl⟩

/-- **What may be registered.**  A record is made of an identity, a type and a
payload exactly if all three are admissible; it then waits for the registry, holds
what was given, and is otherwise empty.  Anything else is a fault of the caller.

A registration that the registry or its certificate made invalid, wherever a run
led, is replaced by a type and a payload exactly if these two are admissible.
Otherwise this is a fault of the caller too, and nobody is asked for anything. -/
theorem admission_iff (i : Identity) (role : String) (payload : Payload) :
    (∀ now r, Record.make i role payload now = .ok r ↔
      (i.Admissible ∧ IsLabel 64 role ∧ payload.Admissible) ∧
        r = ⟨i, role, .initiated, payload, none, none, now, now, 0⟩) ∧
    (∀ now, (∃ e, Record.make i role payload now = .error e) ↔
      ¬(i.Admissible ∧ IsLabel 64 role ∧ payload.Admissible)) ∧
    ∀ (w : World) (r : Record), w.Reachable → w.store.get? i = some r →
      (r.status = .invalid ∨ r.status = .invalidSsl) → ∀ (p : Nat) (l : Lot),
      ((∃ now t₁, (Service.update i role payload).solo p ⟨l, w.surroundings⟩ =
          (.ok (r.madeAgain role payload now), t₁) ∧
          Stage.Replaces ⟨l, w.surroundings⟩ i (r.madeAgain role payload now) t₁) ↔
        IsLabel 64 role ∧ payload.Admissible) ∧
      ((∃ e, Service.update i role payload = throw (.validation e)) ↔
        ¬(IsLabel 64 role ∧ payload.Admissible)) := by
  refine ⟨fun now r => Record.make_eq_ok_iff_admissible, fun now => Record.make_eq_error_iff, ?_⟩
  intro w r hw hr hs p l
  obtain ⟨keys, hkeys⟩ := hw.keyed.stored i r hr
  have hfound : ∃ keys, w.surroundings.found p i.keyId = some keys := by
    unfold Surroundings.found
    cases w.surroundings.atHand p i.keyId with
    | some keys => exact ⟨keys, rfl⟩
    | none => exact ⟨keys, hkeys⟩
  obtain ⟨keys, hfound⟩ := hfound
  exact Service.update_iff (t := ⟨l, w.surroundings⟩) role payload hr hs hfound

/-- A registration is made and refused. -/
def World.turnedDown : World := empty.play
  ([.restart .sample, .call 0 (.create sampleIdentity "BAP" (.plain "https://host" "domain"))] ++
    List.replicate 8 (.answer 0 .sample) ++ List.replicate 6 (.answer 1 .refused))

/-- It may be replaced by one for another type and address, and an address without
a host may not. -/
theorem admission_iff_turnedDown : ∃ (w : World) (r : Record), w.Reachable ∧
    w.store.get? sampleIdentity = some r ∧ r.status = .invalid ∧
    (∃ now t₁, (Service.update sampleIdentity "BPP" (.plain "http://h?q" "domain")).solo 0
      ⟨.sample ⟨[], []⟩, w.surroundings⟩ =
        (.ok (r.madeAgain "BPP" (.plain "http://h?q" "domain") now), t₁) ∧
      Stage.Replaces ⟨.sample ⟨[], []⟩, w.surroundings⟩ sampleIdentity
        (r.madeAgain "BPP" (.plain "http://h?q" "domain") now) t₁) ∧
    ∃ e, Service.update sampleIdentity "BPP" (.plain "http:///h" "domain") =
      throw (.validation e) := by
  have hreach : World.turnedDown.Reachable := World.leads_play _ _
  have hstatus : (World.turnedDown.store.get? sampleIdentity).map (·.status) = some .invalid := by
    decide +kernel
  obtain ⟨r, hr, hs⟩ := Option.map_eq_some_iff.1 hstatus
  have hrole : IsLabel 64 "BPP" := checkRole_eq_ok_iff.1 rfl
  have hgood : (Payload.plain "http://h?q" "domain").Admissible :=
    Payload.check_eq_ok_iff.1 rfl
  have hbad : ¬(Payload.plain "http:///h" "domain").Admissible := by
    rw [← Payload.check_eq_ok_iff]
    intro h
    cases h
  refine ⟨World.turnedDown, r, hreach, hr, hs, ?_, ?_⟩
  · exact ((admission_iff sampleIdentity "BPP" (.plain "http://h?q" "domain")).2.2 _ r hreach hr
      (.inl hs) 0 _).1.2 ⟨hrole, hgood⟩
  · exact ((admission_iff sampleIdentity "BPP" (.plain "http:///h" "domain")).2.2 _ r hreach hr
      (.inl hs) 0 (.sample ⟨[], []⟩)).2.2 fun h => hbad h.2

end Enrolment
