import Enrolment.Proofs.Conduct.Requests
import Enrolment.Proofs.Schedule
import Enrolment.Proofs.Texts.Base64
import Enrolment.Proofs.Texts.Parts
import Enrolment.Registry.Client
import Mathlib.Data.List.Forall2

/-!
# What makes a registration invalid

A round gives a registration up as soon as a call fails for good.  Between the
rounds and the registry stands a client: it refuses to send what cannot be sent,
and it reads what comes back from the network.  With such a client a call fails
for good in three ways only.  The registry answers with a status from 400 to 499
that asks for no other try; it answers with a status that is neither a success
nor an error, such as a redirection that leads nowhere; or nothing is sent at
all, since the address of the registry or the identity cannot be.

The second and the third are no refusals, but they have the same effect.

## Main definitions

* `RegistryClient.Hears` — what a round hears through a client.
* `RegistryClient.Wired` — all rounds spoke to the registry through a client.

## Main statements

* `RegistryClient.Hears.definitive` — when a call fails for good.
* `World.Reachable.invalidated` — why a round made a registration invalid.
-/

namespace Enrolment

/-! ## Clients and the network -/

/-- What a round hears through a client: what came back from the network, or the
fault of a request that is not sent. -/
inductive RegistryClient.Hears (c : RegistryClient) (request : Request)
    (authorization : Option String) : Option Answer → Except RegistryError Ack → Prop
  /-- The request was sent. -/
  | sent {out : Outgoing} (answer : Answer) (h : c.outgoing request authorization = .ok out) :
      Hears c request authorization (some answer) answer.read
  /-- The request cannot be sent. -/
  | unsent {e : RegistryError} (h : c.outgoing request authorization = .error e) :
      Hears c request authorization none (.error e)

/-- A call to the registry that was answered. -/
structure Exchange where
  /-- The task that called. -/
  task : Task
  /-- The request. -/
  request : Request
  /-- The header that carried the signature. -/
  authorization : Option String
  /-- What the task heard. -/
  reply : Except RegistryError Ack

/-- The call to the registry that was answered. -/
def Occurrence.exchange? : Occurrence → Option Exchange
  | .answered task (.call request authorization) reply => some ⟨task, request, authorization, reply⟩
  | _ => none

/-- The calls to the registry that were answered, the latest first. -/
def exchanges (past : List Occurrence) : List Exchange := past.filterMap Occurrence.exchange?

/-- All calls were made through a client, and `log` is what came back from the
network for each, the latest first. -/
def RegistryClient.Wired (c : RegistryClient) (past : List Occurrence)
    (log : List (Option Answer)) : Prop :=
  List.Forall₂ (fun x answer => c.Hears x.request x.authorization answer x.reply) (exchanges past)
    log

variable {c : RegistryClient} {past earlier : List Occurrence} {log : List (Option Answer)}

theorem mem_exchanges_iff {x : Exchange} : x ∈ exchanges past ↔
    .answered x.task (.call x.request x.authorization) x.reply ∈ past := by
  simp only [exchanges, List.mem_filterMap]
  constructor
  · rintro ⟨o, ho, hx⟩
    cases o with
    | begun task => cases hx
    | answered task ask reply =>
      cases ask with
      | call =>
        cases hx
        exact ho
      | _ => cases hx
  · intro hmem
    exact ⟨_, hmem, rfl⟩

/-- What came back for a call that was answered. -/
theorem RegistryClient.Wired.exists_answer (h : c.Wired past log) {x : Exchange}
    (hx : x ∈ exchanges past) : ∃ answer, (x, answer) ∈ (exchanges past).zip log ∧
      c.Hears x.request x.authorization answer x.reply := by
  obtain ⟨k, hk, rfl⟩ := List.getElem_of_mem hx
  have hlength := h.length_eq
  refine ⟨log.get ⟨k, hlength ▸ hk⟩, ?_, h.get hk (hlength ▸ hk)⟩
  exact List.mem_iff_getElem.2 ⟨k, by simpa [← hlength] using hk, by simp⟩

/-! ## What can be sent -/

namespace RegistryClient

theorem isHeaderText_append (s t : String) :
    isHeaderText (s ++ t) = (isHeaderText s && isHeaderText t) := by
  simp [isHeaderText]

/-- Letters and digits can stand in a header. -/
theorem isHeaderText_of_isAlphanum {s : String}
    (h : ∀ x ∈ s.toList, x.isAlphanum = true ∨ x ∈ ['-', '+', '/', '=']) :
    isHeaderText s = true := by
  refine List.all_eq_true.2 ?_
  intro x hx
  rcases h x hx with halnum | hmem
  · have hcode := Text.toNat_of_isAlphanum halnum
    have hvisible : 32 ≤ x.toNat ∧ x.toNat ≠ 127 := by omega
    simp [hvisible]
  · simp only [List.mem_cons, List.not_mem_nil, or_false] at hmem
    rcases hmem with rfl | rfl | rfl | rfl <;> rfl

/-- All of a header but the identity can stand in one. -/
theorem isHeaderText_text {a : Authorization} (hs : isHeaderText a.identity.subscriberId = true)
    (hk : isHeaderText a.identity.keyId = true) : isHeaderText a.text = true := by
  have hinteger (n : Int) : isHeaderText (Text.integerText n) = true := by
    apply isHeaderText_of_isAlphanum
    intro x hx
    rcases Text.integerText_chars hx with hdigit | rfl
    · exact .inl (by simp [Char.isAlphanum, hdigit])
    · exact .inr (by simp)
  have hencoded : isHeaderText (Text.Base64.encode a.signature) = true := by
    apply isHeaderText_of_isAlphanum
    intro x hx
    rcases Text.Base64.encode_chars hx with halnum | rfl | rfl | rfl
    · exact .inl halnum
    all_goals exact .inr (by simp)
  have hfixed : ∀ s ∈ ["Signature ", ",", "=\"", "\"", "|", "keyId", "algorithm", "created",
      "expires", "headers", "signature", Authorization.algorithm, Authorization.signedHeaders],
      isHeaderText s = true := by
    decide
  simp only [List.mem_cons, List.not_mem_nil, or_false, forall_eq_or_imp, forall_eq] at hfixed
  have htext : a.text = "Signature " ++
      (Authorization.parameter "keyId" (a.identity.subscriberId ++ "|" ++ a.identity.keyId ++ "|" ++
        Authorization.algorithm) ++ "," ++
      Authorization.parameter "algorithm" Authorization.algorithm ++ "," ++
      Authorization.parameter "created" (Text.integerText a.created) ++ "," ++
      Authorization.parameter "expires" (Text.integerText a.expires) ++ "," ++
      Authorization.parameter "headers" Authorization.signedHeaders ++ "," ++
      Authorization.parameter "signature" (Text.Base64.encode a.signature)) := rfl
  simp only [htext, Authorization.parameter, isHeaderText_append, hinteger, hencoded, hs, hk,
    hfixed, Bool.and_self]

/-- A request that cannot be sent goes to an address that none can be sent to, or
its header cannot stand in one. -/
theorem of_outgoing_eq_error {request : Request} {authorization : Option String}
    {e : RegistryError} (h : c.outgoing request authorization = .error e) :
    (Url.read? c.address).any Url.isSendable = false ∨
      ∃ header, authorization = some header ∧ isHeaderText header = false := by
  unfold outgoing at h
  by_cases haddress : (Url.read? c.address).any Url.isSendable = true
  · right
    cases authorization with
    | none => simp [haddress, pure, Except.pure] at h
    | some header =>
      refine ⟨header, rfl, ?_⟩
      by_contra hheader
      simp [haddress, hheader, pure, Except.pure] at h
  · exact .inl (by simpa using haddress)

/-- A call fails for good if the answer is neither a success nor asks for another
try, or if nothing was sent. -/
theorem Hears.definitive {request : Request} {authorization : Option String}
    {answer : Option Answer} {e : RegistryError}
    (h : c.Hears request authorization answer (.error e)) (hd : e.isRetryable = false) :
    (∃ status body, answer = some (.whole status body) ∧ (status < 200 ∨ 300 ≤ status) ∧
      RegistryError.isTransient status = false) ∨
      (answer = none ∧ c.outgoing request authorization = .error e) := by
  generalize hreply : (Except.error e : Except RegistryError Ack) = reply at h
  cases h with
  | unsent he =>
    cases hreply
    exact .inr ⟨rfl, he⟩
  | sent answer hout =>
    left
    cases answer with
    | lost | brokenOff =>
      cases hreply
      cases hd
    | whole status body =>
      refine ⟨status, body, rfl, ?_⟩
      simp only [Answer.read] at hreply
      by_cases hsuccess : 200 ≤ status ∧ status < 300
      · rw [if_pos hsuccess] at hreply
        cases hack : Ack.reader.fromText (Text.lossyText body) with
        | ok ack =>
          rw [hack] at hreply
          cases hreply
        | error fault =>
          rw [hack] at hreply
          cases hreply
          cases hd
      · rw [if_neg hsuccess] at hreply
        cases hreply
        refine ⟨by omega, ?_⟩
        by_contra htransient
        rw [RegistryError.ofStatus, if_pos (by simpa using htransient)] at hd
        cases hd

/-- An identity that can stand in a header. -/
def isHeaderIdentity (i : Identity) : Bool := isHeaderText i.subscriberId && isHeaderText i.keyId

/-- A request of a round that cannot be sent goes to an address that none can be
sent to, or is signed for an identity that cannot stand in a header. -/
theorem of_unsent {request : Request} {authorization : Option String} {r : Record}
    {kind : RoundKind} {keys : Keyset} {e : RegistryError}
    (hr : request.IsFor authorization r kind keys)
    (h : c.outgoing request authorization = .error e) :
    (Url.read? c.address).any Url.isSendable = false ∨
      (kind = .update ∧ isHeaderIdentity r.identity = false) := by
  obtain ⟨messageId, now, rfl, hauthorization⟩ := hr
  rcases of_outgoing_eq_error h with haddress | ⟨header, rfl, hheader⟩
  · exact .inl haddress
  · right
    cases kind with
    | initial => cases hauthorization
    | update =>
      refine ⟨rfl, ?_⟩
      by_contra hidentity
      obtain ⟨hs, hk⟩ : isHeaderText r.identity.subscriberId = true ∧
          isHeaderText r.identity.keyId = true := by
        simpa [isHeaderIdentity] using hidentity
      rw [Option.some.inj hauthorization, isHeaderText_text hs hk] at hheader
      cases hheader

end RegistryClient

/-! ## Rounds that make a registration invalid -/

/-- A round that makes a registration invalid has heard a fault that no other try
helps with. -/
theorem Commit.heard_of_invalid {task : Task} {new r : Record} {kind : RoundKind}
    (h : Commit task past new) (hc : task.call = .register r kind) (hn : new.status = .invalid) :
    ∃ request authorization e, e.isRetryable = false ∧
      .answered task (.call request authorization) (.error e) ∈ past := by
  cases h with
  | made hcall =>
    rw [hc] at hcall
    cases hcall
  | revised _ hrev =>
    cases hrev with
    | remade hcall | challenged hcall | pushed hcall =>
      rw [hc] at hcall
      cases hcall
    | accepted => cases hn
    | rejected _ _ _ hd heard _ => exact ⟨_, _, _, hd, heard⟩

/-- **A round makes a registration invalid only after one of its calls was
answered with a status from 400 to 499 that asks for no other try, or with one
that is neither a success nor an error, or was not sent.**  Nothing is sent to an
address that none can be sent to, nor in a further registration of an identity
that cannot stand in a header. -/
theorem World.Reachable.invalidated {w : World} (h : w.Reachable) (hw : c.Wired w.past log)
    {o : Occurrence} {new r : Record} {kind : RoundKind} (hs : (o :: earlier) <:+ w.past)
    (ho : o.written? = some new) (hn : new.status = .invalid)
    (hc : o.task.call = .register r kind) :
    ∃ x answer, x ∈ exchanges earlier ∧ (x, answer) ∈ (exchanges w.past).zip log ∧
      x.task = o.task ∧ x.request.identity = r.identity ∧
      ((∃ status body, answer = some (.whole status body) ∧
          400 ≤ status ∧ status < 500 ∧ status ≠ 408 ∧ status ≠ 429) ∨
        (∃ status body, answer = some (.whole status body) ∧
          (status < 200 ∨ 300 ≤ status ∧ status < 400)) ∨
        (answer = none ∧ ((Url.read? c.address).any Url.isSendable = false ∨
          (kind = .update ∧ RegistryClient.isHeaderIdentity r.identity = false)))) := by
  have hcommit := h.sound.chronicle.commit_of_suffix hs ho
  obtain ⟨request, authorization, e, hd, heard⟩ := hcommit.heard_of_invalid hc hn
  have hx : (⟨o.task, request, authorization, .error e⟩ : Exchange) ∈ exchanges earlier :=
    mem_exchanges_iff.2 heard
  have hsuffix : earlier <:+ w.past := (List.suffix_cons o earlier).trans hs
  have hx' : (⟨o.task, request, authorization, .error e⟩ : Exchange) ∈ exchanges w.past :=
    mem_exchanges_iff.2 (hsuffix.subset heard)
  obtain ⟨answer, hzip, hhears⟩ := hw.exists_answer hx'
  obtain ⟨before, after, hsplit⟩ := List.append_of_mem heard
  have hrequests : w.Requests o.task after request authorization := by
    refine .inl ⟨.error e, List.IsSuffix.trans ?_ hsuffix⟩
    exact ⟨before, hsplit.symm⟩
  obtain ⟨r', kind', keys, hc', -, hfor⟩ := h.requested hrequests
  obtain ⟨rfl, rfl⟩ : r = r' ∧ kind = kind' := by
    rw [hc] at hc'
    exact Service.Call.register.inj hc'
  have hidentity : request.identity = r.identity := by
    obtain ⟨messageId, now, rfl, -⟩ := hfor
    rfl
  refine ⟨_, answer, hx, hzip, rfl, hidentity, ?_⟩
  rcases hhears.definitive hd with ⟨status, body, rfl, hstatus, htransient⟩ | ⟨rfl, hunsent⟩
  · obtain ⟨hlow, hrest⟩ : status < 500 ∧ status ≠ 408 ∧ status ≠ 429 := by
      simpa [RegistryError.isTransient, and_assoc] using htransient
    by_cases herror : 400 ≤ status
    · exact .inl ⟨status, body, rfl, herror, hlow, hrest⟩
    · exact .inr (.inl ⟨status, body, rfl, by omega⟩)
  · exact .inr (.inr ⟨rfl, RegistryClient.of_unsent hfor hunsent⟩)

/-! ## Runs of one round -/

/-- A registration is made, and its round hears the registry and records what it
said. -/
def oneRound (answer : Answer) : List Move :=
  [.restart .sample, .call 0 (.create sampleIdentity "BAP" (.plain "https://host" "domain"))] ++
    List.replicate 8 (.answer 0 .sample) ++
      List.replicate 6 (.answer 1 { Draws.sample with heard := answer.read })

/-- A client of a registry on the same machine. -/
def RegistryClient.sample : RegistryClient := ⟨"http://[::1]/subscribe"⟩

/-- What is told of a fault that the registry answered with. -/
def RegistryError.told? : RegistryError → Option (Nat × String × String)
  | .rejected status code message => some (status, code, message)
  | _ => none

/-- The header of a call and what is told of the fault that it heard. -/
def Exchange.told (x : Exchange) : Option String × Option (Nat × String × String) :=
  (x.authorization, match x.reply with | .error e => e.told? | .ok _ => none)

/-- What the last thing that happened did: whether it happened to a round, and
the status that it wrote. -/
def World.lastWrite (w : World) : Option (Bool × Option Status) :=
  w.past.head?.map fun o => (o.task.call.isRound, o.written?.map (·.status))

/-- The one call of a round goes through the client. -/
theorem RegistryClient.wired_oneRound {status : Nat} {code message : String}
    (hread : (Answer.whole status []).read = .error (.rejected status code message))
    (hpast : (exchanges (World.empty.play (oneRound (.whole status []))).past).map Exchange.told =
      [(none, some (status, code, message))]) :
    RegistryClient.sample.Wired (World.empty.play (oneRound (.whole status []))).past
      [some (.whole status [])] := by
  obtain ⟨⟨task, request, authorization, reply⟩, hx, heq⟩ := List.map_eq_singleton_iff.1 hpast
  obtain ⟨rfl, hreply⟩ := Prod.mk.inj heq
  have hrejected : reply = .error (.rejected status code message) := by
    rcases reply with (_ | _ | _ | _) | _ <;> cases hreply
    rfl
  have haddress : (Url.read? RegistryClient.sample.address).any Url.isSendable = true := by
    decide +kernel
  rw [Wired, hx]
  refine .cons ?_ .nil
  rw [hrejected, ← hread]
  have hout : sample.outgoing request none =
      .ok ⟨"POST", sample.address, "application/json", none, request.body⟩ := by
    simp only [outgoing, haddress]
    rfl
  exact .sent _ hout

/-- The last thing that happened was that a round made a registration invalid. -/
theorem World.exists_invalid {w : World} (h : w.lastWrite = some (true, some .invalid)) :
    ∃ o earlier new r kind, w.past = o :: earlier ∧ o.written? = some new ∧
      new.status = .invalid ∧ o.task.call = .register r kind := by
  obtain ⟨o, ho, heq⟩ := Option.map_eq_some_iff.1 h
  obtain ⟨earlier, hpast⟩ := List.head?_eq_some_iff.1 ho
  obtain ⟨hround, hwrite⟩ := Prod.mk.inj heq
  obtain ⟨new, hnew, hstatus⟩ := Option.map_eq_some_iff.1 hwrite
  cases hc : o.task.call with
  | register r kind => exact ⟨o, earlier, new, r, kind, hpast, hnew, hstatus, hc⟩
  | _ => simp [hc, Service.Call.isRound] at hround

/-- The registry refuses a registration with the status 400. -/
theorem World.invalidated_refused : ∃ w : World, w.Reachable ∧
    RegistryClient.sample.Wired w.past [some (.whole 400 [])] ∧
    ∃ o earlier new r kind, w.past = o :: earlier ∧ o.written? = some new ∧
      new.status = .invalid ∧ o.task.call = .register r kind ∧
      ∃ x answer, x ∈ exchanges earlier ∧ x.task = o.task ∧
        answer ∈ [some (Answer.whole 400 [])] := by
  have hreach : (empty.play (oneRound (.whole 400 []))).Reachable := leads_play _ _
  have hpast : (exchanges (empty.play (oneRound (.whole 400 []))).past).map Exchange.told =
      [(none, some (400, "400", ""))] := by
    decide +kernel
  have hwired : RegistryClient.sample.Wired (empty.play (oneRound (.whole 400 []))).past
      [some (.whole 400 [])] :=
    RegistryClient.wired_oneRound rfl hpast
  obtain ⟨o, earlier, new, r, kind, hpast, ho, hn, hc⟩ :=
    exists_invalid (w := empty.play (oneRound (.whole 400 []))) (by decide +kernel)
  obtain ⟨x, answer, hx, hzip, htask, -⟩ :=
    hreach.invalidated hwired ⟨[], hpast.symm⟩ ho hn hc
  exact ⟨_, hreach, hwired, o, earlier, new, r, kind, hpast, ho, hn, hc, x, answer, hx, htask,
    (List.of_mem_zip hzip).2⟩

/-- The registry answers with the status 304, which is no refusal, and the round
makes the registration invalid. -/
theorem World.invalid_unrefused : ∃ w : World, w.Reachable ∧
    RegistryClient.sample.Wired w.past [some (.whole 304 [])] ∧
    (∃ o earlier new r kind, w.past = o :: earlier ∧ o.written? = some new ∧
      new.status = .invalid ∧ o.task.call = .register r kind) ∧
    ¬∃ status body, some (Answer.whole status body) ∈ [some (Answer.whole 304 [])] ∧
      400 ≤ status ∧ status < 500 := by
  have hreach : (empty.play (oneRound (.whole 304 []))).Reachable := leads_play _ _
  have hpast : (exchanges (empty.play (oneRound (.whole 304 []))).past).map Exchange.told =
      [(none, some (304, "304", ""))] := by
    decide +kernel
  have hwired : RegistryClient.sample.Wired (empty.play (oneRound (.whole 304 []))).past
      [some (.whole 304 [])] :=
    RegistryClient.wired_oneRound rfl hpast
  refine ⟨_, hreach, hwired, exists_invalid (by decide +kernel), ?_⟩
  rintro ⟨status, body, hmem, hlow, -⟩
  simp only [List.mem_singleton, Option.some.injEq, Answer.whole.injEq] at hmem
  omega

end Enrolment
