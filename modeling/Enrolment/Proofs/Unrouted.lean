import Enrolment.Proofs.Callbacks
import Mathlib.Data.Option.Defs

/-!
# Challenges without a route

Where no route leads, a challenge is taken by another handler, which reads the
body with other words for what is wrong with it.  Apart from these words nobody
can tell the two handlers apart: they ask their surroundings for the same things
one after another, so that they leave them in the same state, and what they
answer has the same status, headers and document, or tells an error of the same
type and code.

## Main definitions

* `Plan.Mirrors` — two plans ask for the same and end with related values.
* `HttpResponse.Agrees` — two answers differ at most in the message of an error.

## Main statements

* `Plan.Mirrors.runIn` — such plans leave any surroundings in the same state.
* `serve_unrouted_alike` — a challenge is answered alike with and without a
  route.
-/

namespace Enrolment

open Http

/-! ## Plans that mirror each other -/

namespace Plan

variable {α β γ : Type} {R : β → γ → Prop}

/-- The plans ask for the same things one after another, whatever they are told,
and end with related values. -/
inductive Mirrors (R : β → γ → Prop) : Plan β → Plan γ → Prop
  /-- Both end. -/
  | done {b : β} {c : γ} (h : R b c) : Mirrors R (.done b) (.done c)
  /-- Both ask, and go on alike after every answer. -/
  | step (ask : Ask) {next : ask.Reply → Plan β} {next' : ask.Reply → Plan γ}
      (h : ∀ reply, Mirrors R (next reply) (next' reply)) :
      Mirrors R (.step ask next) (.step ask next')

/-- After the same plan, what mirrors each other does so as a whole. -/
theorem mirrors_bind (p : Plan α) {f : α → Plan β} {g : α → Plan γ}
    (h : ∀ a, (f a).Mirrors R (g a)) : (p >>= f).Mirrors R (p >>= g) := by
  induction p with
  | done a => exact h a
  | step ask next ih => exact .step ask ih

/-- One plan with two related outcomes. -/
theorem mirrors_map (p : Plan α) {f : α → β} {g : α → γ} (h : ∀ a, R (f a) (g a)) :
    (f <$> p).Mirrors R (g <$> p) := by
  rw [map_eq_pure_bind, map_eq_pure_bind]
  exact mirrors_bind p fun a => .done (h a)

/-- Plans that mirror each other leave any surroundings in the same state, and
come to related values or to none. -/
theorem Mirrors.runIn {σ : Type} {p : Plan β} {q : Plan γ} (h : p.Mirrors R q)
    (answer : (a : Ask) → σ → Option a.Reply × σ) (w : σ) :
    Option.Rel R (p.runIn answer w).1 (q.runIn answer w).1 ∧
      (p.runIn answer w).2 = (q.runIn answer w).2 := by
  induction h generalizing w with
  | done h => exact ⟨.some h, rfl⟩
  | step ask _ ih =>
    unfold Plan.runIn
    rcases answer ask w with ⟨reply?, w'⟩
    cases reply? with
    | none => exact ⟨.none, rfl⟩
    | some reply => exact ih reply w'

end Plan

namespace Http

variable {s : Service} {callbackPaths : List String} {request : HttpRequest} {path : String}

/-! ## Answers that agree -/

/-- The answers have one status and one header, and they carry the same document,
or errors of the same type and code. -/
structure HttpResponse.Agrees (r r' : HttpResponse) : Prop where
  /-- The status is the same. -/
  status : r.status = r'.status
  /-- So are the headers. -/
  headers : r.headers = r'.headers
  /-- A success says the same. -/
  success : r.status = 200 → r.body = r'.body
  /-- Anything else tells errors that differ at most in their messages. -/
  error : r.status ≠ 200 → ∃ e e' : ApiError, e.labels = e'.labels ∧
    r.body = Text.encode e.body.chars ∧ r'.body = Text.encode e'.body.chars

/-- Errors of one type and code are told with one status. -/
theorem ApiError.status_of_labels {e e' : ApiError} (h : e.labels = e'.labels) :
    e.status = e'.status := by
  cases e <;> cases e' <;> simp [ApiError.labels] at h <;> rfl

theorem HttpResponse.agrees_ofError {e e' : ApiError} (h : e.labels = e'.labels) :
    (HttpResponse.ofError e).Agrees (.ofError e') where
  status := ApiError.status_of_labels h
  headers := rfl
  success := by
    intro hsuccess
    have hfault : (HttpResponse.ofError e).status ≠ 200 := by
      cases e <;> simp [HttpResponse.ofError, HttpResponse.json, ApiError.status]
    exact absurd hsuccess hfault
  error := fun _ => ⟨e, e', h, rfl, rfl⟩

theorem HttpResponse.agrees_resultAnswer {α : Type} (toJson : α → Json.Value)
    (res : Except ServiceError α) :
    (Errand.resultAnswer toJson res).Agrees (Errand.resultAnswer toJson res) := by
  cases res with
  | ok a => exact ⟨rfl, rfl, fun _ => rfl, fun hfault => absurd rfl hfault⟩
  | error e => exact agrees_ofError rfl

/-- Answers that agree do so when they go out to requests of one method. -/
theorem HttpResponse.Agrees.sent {r r' : HttpResponse} (h : r.Agrees r')
    {request request' : HttpRequest} (hm : request.method = "POST")
    (hm' : request'.method = "POST") (requestId : String) :
    (Http.sent request requestId r).Agrees (Http.sent request' requestId r') := by
  unfold Http.sent
  rw [hm, hm', if_neg (by decide), if_neg (by decide)]
  exact ⟨h.status, congrArg (· ++ commonHeaders requestId) h.headers, h.success, h.error⟩

/-! ## Where a challenge leads -/

/-- The request as it is made at another target. -/
def HttpRequest.sentTo (request : HttpRequest) (target : String) : HttpRequest :=
  { request with target := target }

/-- A path of the interface or one that the subscriber was told takes
challenges. -/
theorem methodsOf_of_told {raw : String} (h : readCallbackPaths raw = .ok callbackPaths)
    (hp : path = challengePath ∨ path ∈ callbackPaths) :
    methodsOf callbackPaths path = some challengeMethods := by
  have hreserved : ∀ route ∈ interfaceRoutes,
      route.1 ∈ reservedPaths ∧ route.1 ≠ challengePath := by
    decide
  have hfree : interfaceRoutes.lookup path = none := by
    rw [List.lookup_eq_none_iff]
    intro route hroute
    have hne : path ≠ route.1 := by
      rintro rfl
      rcases hp with hp | hp
      · exact (hreserved route hroute).2 hp
      · exact (isCallbackPath_of_mem h hp).free (hreserved route hroute).1
    exact bne_iff_ne.2 hne
  unfold methodsOf
  rw [lookup_literalRoutes hfree, if_pos hp]

/-- A document that is sent as one and is not too long is only refused for what
it says. -/
theorem readBody_of_short {α : Type} {r : Json.Reader α}
    (htype : (request.header? "content-type").any MediaType.isJson = true)
    (hshort : request.body.length ≤ maxBody) :
    readBody r request =
      (r.fromBytes request.body).mapError fun e => .badRequest (bodyFault e) := by
  unfold readBody
  simp only [htype, Nat.not_lt.2 hshort, if_false]
  rfl

/-- A challenge on a route. -/
theorem Errand.ofRequest_routed (hm : request.method = "POST")
    (htype : (request.header? "content-type").any MediaType.isJson = true)
    (hshort : request.body.length ≤ maxBody)
    (hroute : methodsOf callbackPaths request.path = some challengeMethods) :
    ofRequest callbackPaths request = ofRead challenge
      ((ChallengeBody.reader.fromBytes request.body).mapError fun e =>
        .badRequest (bodyFault e)) := by
  unfold ofRequest
  rw [hroute, hm, if_neg (by decide)]
  exact congrArg (ofRead challenge) (readBody_of_short htype hshort)

/-- A challenge without a route. -/
theorem Errand.ofRequest_unrouted (hm : request.method = "POST")
    (hshort : request.body.length ≤ maxBody) (hends : looksLikeChallenge request.path = true)
    (hnone : methodsOf callbackPaths request.path = none) :
    ofRequest callbackPaths request = ofRead challenge
      ((ChallengeBody.reader.fromBytes request.body).mapError fun e =>
        .badRequest e.message) := by
  unfold ofRequest
  rw [hnone, hm, if_neg (by decide)]
  unfold offRoute
  rw [if_neg (Nat.not_lt.2 hshort), if_pos ⟨hm, hends⟩]

/-- Challenges that are read alike, but for the words of what is wrong with them,
are answered alike. -/
theorem Errand.mirrors_challenge (read : Except Json.ReadError ChallengeBody)
    {wording wording' : Json.ReadError → String} {request request' : HttpRequest}
    (hm : request.method = "POST") (hm' : request'.method = "POST") (requestId : String) :
    (sent request requestId <$>
        (ofRead challenge (read.mapError fun e => .badRequest (wording e))).plan s).Mirrors
      HttpResponse.Agrees
      (sent request' requestId <$>
        (ofRead challenge (read.mapError fun e => .badRequest (wording' e))).plan s) := by
  cases read with
  | error e =>
    have hagrees : (HttpResponse.ofError (.badRequest (wording e))).Agrees
        (.ofError (.badRequest (wording' e))) := HttpResponse.agrees_ofError rfl
    exact .done (hagrees.sent hm hm' requestId)
  | ok b =>
    simp only [Except.mapError, ofRead, challenge, plan, Functor.map_map]
    exact Plan.mirrors_map _ fun res =>
      (HttpResponse.agrees_resultAnswer _ res).sent hm hm' requestId

/-- **A challenge is answered alike with and without a route.**  At a path of the
interface or one that the subscriber was told, and where no route leads but the
path ends as these do, a document that is not too long is asked about in the same
way, whatever its bytes are.  In any surroundings, the store among them, both
requests leave the same state, and they get the same answer, or errors of the
same type and code with the same status. -/
theorem serve_unrouted_alike (s : Service) {raw : String}
    (h : readCallbackPaths raw = .ok callbackPaths) (hm : request.method = "POST")
    (htype : (request.header? "content-type").any MediaType.isJson = true)
    (hshort : request.body.length ≤ maxBody) {routed unrouted : String}
    (hroute : (request.sentTo routed).path = challengePath ∨
      (request.sentTo routed).path ∈ callbackPaths)
    (hends : looksLikeChallenge (request.sentTo unrouted).path = true)
    (hnone : methodsOf callbackPaths (request.sentTo unrouted).path = none) :
    (serve s callbackPaths (request.sentTo routed)).Mirrors HttpResponse.Agrees
      (serve s callbackPaths (request.sentTo unrouted)) ∧
    ∀ {σ : Type} (answer : (a : Ask) → σ → Option a.Reply × σ) (w : σ),
      Option.Rel HttpResponse.Agrees
        ((serve s callbackPaths (request.sentTo routed)).runIn answer w).1
        ((serve s callbackPaths (request.sentTo unrouted)).runIn answer w).1 ∧
      ((serve s callbackPaths (request.sentTo routed)).runIn answer w).2 =
        ((serve s callbackPaths (request.sentTo unrouted)).runIn answer w).2 := by
  have hrouted : Errand.ofRequest callbackPaths (request.sentTo routed) = _ :=
    Errand.ofRequest_routed hm htype hshort (methodsOf_of_told h hroute)
  have hunrouted : Errand.ofRequest callbackPaths (request.sentTo unrouted) = _ :=
    Errand.ofRequest_unrouted hm hshort hends hnone
  have hmirrors : (serve s callbackPaths (request.sentTo routed)).Mirrors HttpResponse.Agrees
      (serve s callbackPaths (request.sentTo unrouted)) := by
    rw [serve_eq, serve_eq, hrouted, hunrouted]
    -- the headers are the same, and so is the way in which the requests get their names
    exact Plan.mirrors_bind (naming request) fun requestId =>
      Errand.mirrors_challenge (ChallengeBody.reader.fromBytes request.body) hm hm requestId
  exact ⟨hmirrors, fun answer w => hmirrors.runIn answer w⟩

/-- A document with something after it, which is no challenge. -/
def documentAndMore : HttpRequest :=
  ⟨"POST", "", [("content-type", "application/json")], Text.bytesOf
    "\x7b\"subscriber_id\":\"subscriber\",\"challenge\":\"\"\x7d]"⟩

/-- It is refused alike at a path that the subscriber was told and at one that a
registry made up. -/
theorem serve_unrouted_alike_more :
    readCallbackPaths "acme/on_subscribe" = .ok ["/acme/on_subscribe"] ∧
    documentAndMore.body.length ≤ maxBody ∧
    methodsOf ["/acme/on_subscribe"] (documentAndMore.sentTo "/beckn/on_subscribe?a=b").path =
      none ∧
    (serve .sample ["/acme/on_subscribe"] (documentAndMore.sentTo "/acme/on_subscribe")).Mirrors
      HttpResponse.Agrees (serve .sample ["/acme/on_subscribe"]
        (documentAndMore.sentTo "/beckn/on_subscribe?a=b")) := by
  have hread : readCallbackPaths "acme/on_subscribe" = .ok ["/acme/on_subscribe"] := by
    decide +kernel
  have hshort : documentAndMore.body.length ≤ maxBody := by decide +kernel
  have hnone : methodsOf ["/acme/on_subscribe"]
      (documentAndMore.sentTo "/beckn/on_subscribe?a=b").path = none := by decide +kernel
  exact ⟨hread, hshort, hnone, (serve_unrouted_alike .sample hread rfl (by decide +kernel) hshort
    (.inr (by decide +kernel)) (by decide +kernel) hnone).1⟩

end Http

end Enrolment
