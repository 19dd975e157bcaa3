import Enrolment.Proofs.Exchanges
import Mathlib.Data.List.TakeWhile

/-!
# Signed requests of rounds

A further registration is signed for every attempt.  The time is asked for, the
document is written, its digest is signed with the keyset of the key, and the
client writes the document once more to send it.  All of this fits together: the
signature is one of the bytes that are sent, by the key that these bytes
advertise, and it holds from the moment of the attempt for as long as signatures
hold.

## Main definitions

* `Json.Shows` — a document has a text as its member.
* `ToldTime` — the time was told for this attempt.
* `Signed` — the guarantee that requests of further registrations are signed.

## Main statements

* `Keyset.decodeKey_signing` — an advertised key is read back.
* `Keyset.verify_signed` — when a signature holds.
* `Request.shows_signing` — a request advertises its key.
* `World.Reachable.signed` — every attempt of every run is signed.
-/

namespace Enrolment

/-! ## Advertised keys -/

/-- A text without blank characters keeps its ends. -/
theorem Text.trimmed_of_isBlank {s : String} (h : ∀ c ∈ s.toList, isBlank c = false) :
    trimmed s = s := by
  have hstart : trimStart s.toList = s.toList := by
    rw [trimStart, List.dropWhile_eq_self_iff]
    intro hpos
    rw [h _ (List.getElem_mem hpos)]
    exact Bool.false_ne_true
  have hend : trimEnd s.toList = s.toList := by
    rw [trimEnd, List.dropWhile_eq_self_iff.2, List.reverse_reverse]
    intro hpos
    rw [h _ (List.mem_reverse.1 (List.getElem_mem hpos))]
    exact Bool.false_ne_true
  rw [trimmed, trim, hstart, hend, String.ofList_toList]

/-- Letters and digits are not blank. -/
theorem Text.isBlank_of_isAlphanum {c : Char} (h : c.isAlphanum = true) : isBlank c = false := by
  have hcode := toNat_of_isAlphanum h
  simp [isBlank]
  omega

/-- A text in Base64 has no blank characters. -/
theorem Text.Base64.isBlank_of_mem_encode {bs : Bytes} {c : Char} (h : c ∈ (encode bs).toList) :
    isBlank c = false := by
  rcases encode_chars h with halnum | rfl | rfl | rfl
  · exact isBlank_of_isAlphanum halnum
  all_goals decide

/-- A key in Base64 is read back. -/
theorem decodeKey_encode {bs : Bytes} (h : bs.length = keyLength) :
    decodeKey (Text.Base64.encode bs) = .ok bs := by
  rw [decodeKey, Text.trimmed_of_isBlank fun _ => Text.Base64.isBlank_of_mem_encode,
    Text.Base64.decode_encode]
  simp [h]

theorem Crypto.Ed25519.length_publicKey (secret : Bytes) :
    (publicKey secret).length = keyLength := by
  simp [publicKey, Point.encode, keyLength]

/-- What the key that is read checks is what the advertised key checks. -/
theorem verifySignature_eq_ok {message signature key : Bytes} {publicKey : String} {valid : Bool}
    (hk : decodeKey publicKey = .ok key)
    (hv : Crypto.Ed25519.verify key message signature = some valid) :
    verifySignature message signature publicKey = .ok valid := by
  rw [verifySignature, hk]
  -- The law of the monad is used, since unfolding here would carry out the check.
  refine (pure_bind key _).trans ?_
  rw [hv]
  rfl

namespace Keyset

/-- The key that a keyset advertises for signatures is read back. -/
theorem decodeKey_signing (keys : Keyset) :
    decodeKey keys.publicKeys.signing = .ok (Crypto.Ed25519.publicKey keys.signing) :=
  decodeKey_encode (Crypto.Ed25519.length_publicKey keys.signing)

/-- A signature that the key checks holds in its period, and at no other time. -/
theorem verify_signed {keys : Keyset} {a : Authorization} {body : Bytes}
    (h : Crypto.Ed25519.verify (Crypto.Ed25519.publicKey keys.signing)
      (Text.bytesOf (signingString a.created a.expires body)) a.signature = some true) (now : Int) :
    a.verify body keys.publicKeys.signing now =
      .ok (decide (a.created ≤ now ∧ now ≤ a.expires)) := by
  unfold Authorization.verify
  by_cases hperiod : a.created ≤ now ∧ now ≤ a.expires
  · rw [if_neg (by omega), verifySignature_eq_ok keys.decodeKey_signing h, decide_eq_true hperiod]
  · rw [if_pos (by omega), decide_eq_false hperiod]

end Keyset

/-! ## Documents -/

namespace Json

/-- The bytes spell an object with one member of the name, which is the text, and
the text stands in them as it is. -/
structure Shows (body : Bytes) (name text : String) : Prop where
  /-- There is one member of the name. -/
  member : ∃ members, body = Text.encode (Value.object members).chars ∧
    members.filter (·.1 = name) = [(name, .text text)]
  /-- The member is seen in the bytes. -/
  verbatim : ∃ before after, body = before ++
    Text.bytesOf ("\"" ++ name ++ "\":\"" ++ text ++ "\"") ++ after

namespace Value

/-- A text without characters that are escaped is written as it is. -/
theorem quote_of_escape {s : String} (h : ∀ c ∈ s.toList, escape c = [c]) :
    quote s = ("\"" ++ s ++ "\"").toList := by
  have hflat : s.toList.flatMap escape = s.toList := by
    rw [List.flatMap_def, List.map_congr_left h, ← List.flatMap_def, List.flatMap_singleton']
  simp [quote, hflat]

/-- Letters and digits are not escaped. -/
theorem escape_of_isAlphanum {c : Char} (h : c.isAlphanum = true) : escape c = [c] := by
  have hcode := Text.toNat_of_isAlphanum h
  have hne : ∀ d ∈ ['"', '\\', '\n', '\r', '\t'], c ≠ d := by
    rintro d hd rfl
    simp only [List.mem_cons, List.not_mem_nil, or_false] at hd
    rcases hd with rfl | rfl | rfl | rfl | rfl <;> simp at hcode
  simp only [List.forall_mem_cons] at hne
  unfold escape
  rw [if_neg hne.1, if_neg hne.2.1, if_neg (by omega), if_neg (by omega), if_neg hne.2.2.1,
    if_neg hne.2.2.2.1, if_neg hne.2.2.2.2.1, if_neg (by omega)]

theorem memberChars_append (ms ns : List (String × Value)) :
    memberChars (ms ++ ns) = memberChars ms ++ memberChars ns := by
  induction ms with
  | nil => rfl
  | cons m ms ih => simp [memberChars, ih]

end Value

/-- A member that needs no escapes is shown by the object that holds it. -/
theorem shows_object {first : String × Value} {before after : List (String × Value)}
    {name text : String} (hname : Value.quote name = ("\"" ++ name ++ "\"").toList)
    (htext : Value.quote text = ("\"" ++ text ++ "\"").toList)
    (hother : ∀ m ∈ first :: (before ++ after), m.1 ≠ name) :
    Shows (Text.encode (Value.object (first :: (before ++ (name, .text text) :: after))).chars)
      name text := by
  constructor
  · refine ⟨_, rfl, ?_⟩
    have hnone (ms : List (String × Value)) (hms : ∀ m ∈ ms, m.1 ≠ name) :
        ms.filter (·.1 = name) = [] := by
      simpa [List.filter_eq_nil_iff] using fun m v hm => hms (m, v) hm
    have hfirst : first.1 ≠ name := hother first List.mem_cons_self
    have hbefore := hnone before fun m hm => hother m (by simp [hm])
    have hafter := hnone after fun m hm => hother m (by simp [hm])
    simp [hfirst, hbefore, hafter]
  · let front := '{' :: (Value.quote first.1 ++ ':' :: first.2.chars ++
      Value.memberChars before ++ [','])
    have hsplit : (Value.object (first :: (before ++ (name, .text text) :: after))).chars =
        front ++ ("\"" ++ name ++ "\":\"" ++ text ++ "\"").toList ++
          (Value.memberChars after ++ ['}']) := by
      simp [front, Value.chars, Value.memberChars_append, Value.memberChars, hname, htext]
    refine ⟨Text.encode front, Text.encode (Value.memberChars after ++ ['}']), ?_⟩
    rw [hsplit, Text.bytesOf]
    simp only [Text.encode, List.flatMap_append]

end Json

/-- A key in Base64 needs no escapes. -/
theorem Text.Base64.quote_encode (bs : Bytes) :
    Json.Value.quote (encode bs) = ("\"" ++ encode bs ++ "\"").toList := by
  apply Json.Value.quote_of_escape
  intro c hc
  rcases encode_chars hc with halnum | rfl | rfl | rfl
  · exact Json.Value.escape_of_isAlphanum halnum
  all_goals decide

/-- A request shows the key that checks its signature. -/
theorem Request.shows_signing {request : Request} {keys : Keyset}
    (hk : request.keys = keys.publicKeys) :
    Json.Shows request.body "signing_public_key" keys.publicKeys.signing := by
  have hname : Json.Value.quote "signing_public_key" =
      ("\"" ++ "signing_public_key" ++ "\"").toList := by
    decide
  have hmembers : request.toJson = .object
      (("subscriber_id", .text request.identity.subscriberId) ::
      ((("key_id", .text request.identity.keyId) :: ("type", .text request.role) ::
        ("url", .text request.payload.url) :: ("domain", .text request.payload.domain) ::
          Json.Value.optional "location" request.payload.location) ++
        ("signing_public_key", .text keys.publicKeys.signing) ::
          (("encr_public_key", .text keys.publicKeys.encryption) ::
            (Payload.momentMember "valid_from" request.payload.validFrom ++
              (Payload.momentMember "valid_until" request.payload.validUntil ++
                [("message_id", .text request.messageId)]))))) := by
    simp [Request.toJson, hk]
  rw [Request.body, hmembers]
  refine Json.shows_object hname (Text.Base64.quote_encode _) ?_
  intro m hm
  have hoptional {name : String} {v : Option Json.Value} (h : m ∈ Json.Value.optional name v) :
      m.1 = name := by
    cases v <;> simp [Json.Value.optional] at h
    rw [h]
  simp only [List.mem_cons, List.mem_append, List.not_mem_nil, or_false, Payload.momentMember] at hm
  rcases hm with rfl | ((rfl | rfl | rfl | rfl | h) | rfl | h | h | rfl)
  case inr.inl.inr.inr.inr.inr | inr.inr.inr.inl | inr.inr.inr.inr.inl =>
    rw [hoptional h]
    decide
  all_goals simp

/-- What the client sends is the body of the request, under the header that it was
given. -/
theorem RegistryClient.of_outgoing_eq_ok {c : RegistryClient} {request : Request}
    {authorization : Option String} {out : Outgoing}
    (h : c.outgoing request authorization = .ok out) :
    out.body = request.body ∧ out.authorization = authorization := by
  unfold outgoing at h
  by_cases haddress : (Url.read? c.address).any Url.isSendable = true
  · by_cases hheader : authorization.all isHeaderText = true
    · simp [haddress, hheader, pure, Except.pure] at h
      rw [← h]
      exact ⟨rfl, rfl⟩
    · simp [haddress, hheader, bind, Except.bind, throw, throwThe, MonadExceptOf.throw] at h
  · simp [haddress, bind, Except.bind, throw, throwThe, MonadExceptOf.throw] at h

/-! ## Requests of rounds -/

/-- The task was told the time, and has not spoken to the registry since. -/
def ToldTime (task : Task) (now : Moment) (past : List Occurrence) : Prop :=
  ∃ before, Since task.number (fun o => o.exchange? = none)
    (.answered task .clock now :: before) past

/-- The request of a further registration is for its record, and signed with the
keyset of its key at the time that the task was told for it. -/
def Signed : Guarantee
  | .answered task (.call request authorization) _, past =>
    ∀ r, task.call = .register r .update → ∃ keys messageId now,
      keysAfter r.identity.keyId past = some keys ∧ ToldTime task now past ∧
        request = .ofRecord r keys.publicKeys messageId ∧
        authorization = RoundKind.update.header request keys now.unixSeconds
  | _, _ => True

theorem aboutRequests_signed : Signed.AboutRequests := by
  intro task ask reply past h
  cases ask with
  | call request authorization => exact absurd rfl (h request authorization)
  | _ => exact trivial

variable {task : Task} {past earlier : List Occurrence} {r : Record} {kind : RoundKind}
  {request : Request} {authorization : Option String}

theorem Occurrence.exchange?_of_isLocal {ask : Ask} (h : ask.isLocal = true) (reply : ask.Reply) :
    (answered task ask reply).exchange? = none := by
  cases ask with
  | call => cases h
  | _ => rfl

/-- Every call of a further registration is signed at its own time. -/
theorem Service.signed_callRegistry {keys : Keyset} {messageId : String}
    (hc : task.call = .register r kind) (hk : keysAfter r.identity.keyId past = some keys) :
    (callRegistry (.ofRecord r keys.publicKeys messageId) kind).Upholds task Signed
      (fun _ _ => True) past := by
  cases kind with
  | initial =>
    intro past₁ _ _ reply _
    refine ⟨?_, trivial⟩
    intro r' hr'
    rw [hc] at hr'
    cases hr'
  | update =>
    refine Plan.Upholds.bind (Q := fun now past' => ∃ before, past' = .answered task .clock now ::
      before) (Plan.Upholds.ask fun past₁ _ _ _ _ => ⟨trivial, past₁, rfl⟩) ?_
    rintro now _ s₁ ⟨before, rfl⟩
    have hlocal := Keys.local_authorize r.identity
      (Request.ofRecord r keys.publicKeys messageId).body now.unixSeconds
    -- Between the time and the request the task asks for its keyset only.
    refine Plan.Upholds.bind ((hlocal.upholds_of_aboutRequests aboutRequests_signed
      (Keys.upholds_authorize (keysAfter_mono s₁ hk))).run.since hlocal.run
        (fun o => o.exchange? = none) fun ask reply h => Occurrence.exchange?_of_isLocal h reply) ?_
    rintro res past₂ s₂ ⟨hsince, -, rfl⟩ past₃ h₃ _ reply _
    refine ⟨?_, trivial⟩
    intro r' hr'
    rw [hc] at hr'
    cases hr'
    exact ⟨keys, messageId, now, keysAfter_mono (s₁.trans (s₂.trans h₃.suffix)) hk,
      ⟨before, hsince.trans (h₃.mono fun _ => False.elim)⟩, rfl, rfl⟩

namespace World

variable {w : World}

theorem Requests.suffix (h : w.Requests task earlier request authorization) :
    earlier <:+ w.past := by
  rcases h with ⟨reply, hs⟩ | ⟨rfl, -⟩
  · exact (List.suffix_cons _ earlier).trans hs
  · exact List.suffix_rfl

/-- **Further registrations are signed.**  Every request of every such round is
signed with the keyset that is stored for its key, at the time that the round was
told for this request.  The signature is one of the bytes that a client sends,
which advertise the public half of that keyset; if what the secret half signs is
accepted for the public half, the signature holds for these bytes under the
advertised key in its period, and at no other time. -/
theorem Reachable.signed (h : w.Reachable) (hc : task.call = .register r .update)
    (hr : w.Requests task earlier request authorization) :
    ∃ (keys : Keyset) (now : Moment) (a : Authorization),
      w.store.keys? request.identity.keyId = some keys ∧ ToldTime task now earlier ∧
      (∃ messageId, request = .ofRecord r keys.publicKeys messageId) ∧
      authorization = some a.text ∧ a.identity = request.identity ∧
      a.created = now.unixSeconds ∧ a.expires = a.created + 300 ∧
      a.signature = Crypto.Ed25519.sign keys.signing
        (Text.bytesOf (signingString a.created a.expires request.body)) ∧
      (∀ (c : RegistryClient) (out : Outgoing), c.outgoing request authorization = .ok out →
        out.body = request.body ∧ out.authorization = some a.text) ∧
      Json.Shows request.body "signing_public_key" keys.publicKeys.signing ∧
      (Crypto.Ed25519.verify (Crypto.Ed25519.publicKey keys.signing)
          (Text.bytesOf (signingString a.created a.expires request.body)) a.signature = some true →
        ∀ later, a.verify request.body keys.publicKeys.signing later =
          .ok (decide (a.created ≤ later ∧ later ≤ a.created + 300))) := by
  obtain ⟨_, hsigned⟩ := h.guaranteed aboutRequests_signed
    (fun _ _ hc hk => Service.signed_callRegistry hc hk) hr
  obtain ⟨keys, messageId, now, hk, htold, hrequest, hheader⟩ := hsigned r hc
  have hidentity : request.identity = r.identity := by rw [hrequest, Request.ofRecord]
  have hstored : w.store.keys? request.identity.keyId = some keys := by
    rw [hidentity]
    exact (h.sound.agree.keys _).trans (keysAfter_mono hr.suffix hk)
  refine ⟨keys, now, _, hstored, htold, ⟨messageId, hrequest⟩, hheader, rfl, rfl, rfl, rfl, ?_,
    Request.shows_signing (by rw [hrequest, Request.ofRecord]), fun hverify later => ?_⟩
  · intro c out hout
    obtain ⟨hbody, hauthorization⟩ := RegistryClient.of_outgoing_eq_ok hout
    exact ⟨hbody, hauthorization.trans hheader⟩
  · exact Keyset.verify_signed hverify later

/-- What the second round of a renewal signs. -/
def renewalMessage : Bytes := Text.bytesOf
  "(created): 0\n(expires): 300\ndigest: SHA-256=R4RCLmHZmMvpi4pfoi3hTJvAIhCUKqYG3Kr0TGA4mKg="

/-- The exchange belongs to a further registration, whose body is what the second
round of a renewal signs from now on. -/
def isRenewal (x : Exchange) : Bool :=
  (match x.task.call with | .register _ .update => true | _ => false) &&
    Text.bytesOf (signingString 0 300 x.request.body) == renewalMessage

/-- The key that is advertised for no secret at all. -/
def renewalKey : Bytes :=
  [224, 177, 254, 116, 17, 126, 27, 149, 182, 8, 164, 242, 33, 223, 49, 71, 116, 178, 14, 166,
    104, 66, 53, 13, 81, 83, 113, 199, 198, 150, 108, 110]

/-- Its signature. -/
def renewalSignature : Bytes :=
  [15, 216, 117, 241, 110, 89, 162, 226, 213, 20, 76, 188, 196, 248, 171, 186, 54, 153, 174, 65,
    67, 36, 165, 106, 83, 186, 54, 85, 188, 117, 52, 45, 18, 98, 199, 57, 191, 254, 146, 127, 121,
    93, 39, 171, 105, 155, 2, 15, 224, 66, 152, 88, 89, 154, 209, 40, 81, 191, 35, 192, 99, 167,
    21, 6]

/-- The time that an occurrence tells. -/
def toldTime? : Occurrence → Option Int
  | .answered _ .clock now => some now.unixSeconds
  | _ => none

/-- The second round of a renewal is signed, and its signature holds for five
minutes. -/
theorem signed_renewal : ∃ (w : World) (task : Task) (r : Record) (earlier : List Occurrence)
    (request : Request) (authorization : Option String) (keys : Keyset) (a : Authorization),
    w.Reachable ∧ task.call = .register r .update ∧
      w.Requests task earlier request authorization ∧
      w.store.keys? request.identity.keyId = some keys ∧ authorization = some a.text ∧
      ∀ later, a.verify request.body keys.publicKeys.signing later =
        .ok (decide (a.created ≤ later ∧ later ≤ a.created + 300)) := by
  have hreach : (empty.play renewal).Reachable := leads_play _ _
  -- signing and checking are computed one by one, for what each of them needs is much
  have hfinal : (exchanges (empty.play renewal).past).head?.map isRenewal = some true := by
    decide +kernel
  have hkey : Crypto.Ed25519.publicKey [] = renewalKey := by decide +kernel
  have hsign : Crypto.Ed25519.sign [] renewalMessage = renewalSignature := by decide +kernel
  have haccepts : Crypto.Ed25519.verify renewalKey renewalMessage renewalSignature = some true := by
    decide +kernel
  have hkeys : (exchanges (empty.play renewal).past).head?.bind
      (fun x => (empty.play renewal).store.keys? x.request.identity.keyId) = some ⟨[], []⟩ := by
    decide +kernel
  have htimes : ∀ t ∈ (empty.play renewal).past.filterMap toldTime?, t = 0 := by decide +kernel
  obtain ⟨x, hx, hrenewal⟩ := Option.map_eq_some_iff.1 hfinal
  rw [hx, Option.bind_some] at hkeys
  obtain ⟨hupdate, hmessage⟩ := (Bool.and_eq_true _ _).mp hrenewal
  obtain ⟨r, hc⟩ : ∃ r, x.task.call = .register r .update := by
    split at hupdate
    · exact ⟨_, ‹_›⟩
    · cases hupdate
  obtain ⟨more, earlier, hsplit⟩ := List.append_of_mem
    (mem_exchanges_iff.1 (List.mem_of_mem_head? hx))
  have hr : (empty.play renewal).Requests x.task earlier x.request x.authorization :=
    .inl ⟨x.reply, more, hsplit.symm⟩
  obtain ⟨keys, now, a, hstored, ⟨before, htold⟩, -, hheader, -, hcreated, hexpires, hsignature, -,
    -, hholds⟩ := Reachable.signed hreach hc hr
  obtain rfl : keys = ⟨[], []⟩ := Option.some.inj (hstored.symm.trans hkeys)
  have hzero : a.created = 0 := by
    rw [hcreated]
    refine htimes _ (List.mem_filterMap.2 ⟨.answered x.task .clock now, ?_, rfl⟩)
    exact (htold.suffix.trans hr.suffix).subset List.mem_cons_self
  refine ⟨_, x.task, r, earlier, x.request, x.authorization, _, a, hreach, hc, hr, hstored, hheader,
    hholds ?_⟩
  have hsigned : Text.bytesOf (signingString 0 (0 + 300) x.request.body) = renewalMessage :=
    eq_of_beq hmessage
  rw [hsignature, hexpires, hzero, hsigned, hkey, hsign, haccepts]

end World

end Enrolment
