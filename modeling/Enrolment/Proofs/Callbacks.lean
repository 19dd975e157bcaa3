import Enrolment.Proofs.Interface
import Enrolment.Proofs.Paths

/-!
# Paths that take challenges

A challenge may come in at the path of the interface, at a path that the
subscriber was told, or at any other path with the same end.  A further path is
a route of its own: it goes before the path of a record, and it leaves every
other path as it was.

## Main definitions

* `registeredPaths` — the paths of all routes, literal or with parts left open.
* `HttpRequest.IsOwned` — the requests that the interface answers itself.
* `Errand.MayAnswer` — the answers that an errand can come to.

## Main statements

* `serve_challenge_iff` — where a challenge is taken as at the path of the
  interface.
* `serve_owned_iff` — which requests further paths leave as they are.
-/

namespace Enrolment

open Http

namespace Http

variable {s : Service} {callbackPaths : List String} {request : HttpRequest}
  {routes : List (String × Methods)} {path added : String}

/-! ## Further paths among the literal routes -/

/-- The methods of a path that takes challenges only. -/
def challengeMethods : Methods := [("POST", .challenge)]

/-- A further path leaves the others as they are. -/
theorem lookup_addChallenge_of_ne (h : path ≠ added) :
    (addChallenge added routes).lookup path = routes.lookup path := by
  induction routes with
  | nil => simp [addChallenge, List.lookup_cons, beq_false_of_ne h]
  | cons route rest ih =>
    obtain ⟨other, methods⟩ := route
    unfold addChallenge
    by_cases hadded : added = other
    · subst hadded
      simp [List.lookup_cons, beq_false_of_ne h]
    · rw [if_neg hadded, List.lookup_cons, List.lookup_cons, ih]

/-- A further path that led nowhere, or took challenges already, takes them. -/
theorem lookup_addChallenge_self
    (h : routes.lookup path = none ∨ routes.lookup path = some challengeMethods) :
    (addChallenge path routes).lookup path = some challengeMethods := by
  induction routes with
  | nil => simp [addChallenge, challengeMethods]
  | cons route rest ih =>
    obtain ⟨other, methods⟩ := route
    unfold addChallenge
    by_cases hpath : path = other
    · subst hpath
      obtain rfl : methods = challengeMethods := by simpa using h
      simp [challengeMethods]
    · have hrest : rest.lookup path = none ∨ rest.lookup path = some challengeMethods := by
        simpa [List.lookup_cons, beq_false_of_ne hpath] using h
      rw [if_neg hpath, List.lookup_cons, beq_false_of_ne hpath]
      exact ih hrest

/-- What any number of further paths lead to, if the routes led nowhere from
there. -/
theorem lookup_addChallenges (added : List String)
    (h : routes.lookup path = none ∨ routes.lookup path = some challengeMethods) :
    (added.foldl (fun routes path => addChallenge path routes) routes).lookup path =
      if path ∈ added then some challengeMethods else routes.lookup path := by
  induction added generalizing routes with
  | nil => simp
  | cons first added ih =>
    by_cases hfirst : path = first
    · subst hfirst
      have hself := lookup_addChallenge_self h
      rw [List.foldl_cons, ih (.inr hself), hself, if_pos List.mem_cons_self, ite_self]
    · have hne : (addChallenge first routes).lookup path = routes.lookup path :=
        lookup_addChallenge_of_ne hfirst
      rw [List.foldl_cons, ih (by rwa [hne]), hne]
      simp [hfirst]

/-- What a path that is none of the interface's leads to. -/
theorem lookup_literalRoutes (h : interfaceRoutes.lookup path = none) :
    (literalRoutes callbackPaths).lookup path =
      if path = challengePath ∨ path ∈ callbackPaths then some challengeMethods else none := by
  unfold literalRoutes
  rw [lookup_addChallenges _ (.inl h), h]
  simp only [List.mem_cons]

/-- A path that the subscriber was not told leads where it led. -/
theorem methodsOf_of_not_mem (h : path ∉ callbackPaths) :
    methodsOf callbackPaths path = methodsOf [] path := by
  have hlookup {routes : List (String × Methods)} :
      (callbackPaths.foldl (fun routes path => addChallenge path routes) routes).lookup path =
        routes.lookup path := by
    induction callbackPaths generalizing routes with
    | nil => rfl
    | cons first rest ih =>
      rw [List.mem_cons, not_or] at h
      rw [List.foldl_cons, ih h.2, lookup_addChallenge_of_ne h.1]
  have hroutes : (literalRoutes callbackPaths).lookup path = (literalRoutes []).lookup path := by
    exact hlookup
  unfold methodsOf
  rw [hroutes]

/-! ## Paths with the end of those that take challenges -/

/-- The routes of the interface do not end as those that take challenges. -/
theorem lookup_interfaceRoutes_of_looksLikeChallenge (h : looksLikeChallenge path = true) :
    interfaceRoutes.lookup path = none := by
  have hends : ∀ route ∈ interfaceRoutes, looksLikeChallenge route.1 = false := by decide
  rw [List.lookup_eq_none_iff]
  intro route hroute
  have hne : path ≠ route.1 := by
    rintro rfl
    rw [hends route hroute] at h
    cases h
  exact bne_iff_ne.2 hne

/-- What a path with that end leads to. -/
theorem methodsOf_of_looksLikeChallenge (h : looksLikeChallenge path = true) :
    methodsOf callbackPaths path =
      if path = challengePath ∨ path ∈ callbackPaths then some challengeMethods
      else if (recordParts path).isSome then some [("GET", .lookup)] else none := by
  unfold methodsOf
  rw [lookup_literalRoutes (lookup_interfaceRoutes_of_looksLikeChallenge h)]
  by_cases htold : path = challengePath ∨ path ∈ callbackPaths
  · simp only [if_pos htold]
  · simp only [if_neg htold]

/-! ## Answers that errands come to -/

/-- The answers that an errand can come to. -/
def Errand.MayAnswer : Errand → HttpResponse → Prop
  | .answered response, r => r = response
  | .called _ answer, r => ∃ res, answer res = r

/-- The answer to a result has none of the statuses that refuse a request before
it is read. -/
theorem resultAnswer_status {α : Type} {toJson : α → Json.Value} (res : Except ServiceError α) :
    (Errand.resultAnswer toJson res).status ≠ 405 ∧
      (Errand.resultAnswer toJson res).status ≠ 413 := by
  cases res with
  | ok a => exact ⟨by simp [Errand.resultAnswer, HttpResponse.json],
      by simp [Errand.resultAnswer, HttpResponse.json]⟩
  | error e =>
    have hstatus : (Errand.resultAnswer toJson (.error e)).status = (ApiError.ofService e).status :=
      rfl
    rw [hstatus]
    cases e <;> simp [ApiError.ofService, ApiError.status]

end Http

/-- A plan that ends at once after its result is reworded ends at once. -/
theorem Plan.eq_done_of_map {α β : Type} {f : α → β} {p : Plan α} {b : β}
    (h : f <$> p = .done b) : ∃ a, p = .done a ∧ f a = b := by
  cases p with
  | done a => exact ⟨a, rfl, Plan.done.inj h⟩
  | step ask next => cases h

namespace Http

variable {s : Service} {callbackPaths callbackPaths' : List String} {request request' : HttpRequest}
  {path : String} {response : HttpResponse} {b : ChallengeBody}

/-- An errand that is carried out without asking for anything ends with an
answer that it can come to. -/
theorem Errand.mayAnswer_of_plan_eq {errand : Errand} (h : errand.plan s = .done response) :
    errand.MayAnswer response := by
  cases errand with
  | answered other =>
    cases h
    rfl
  | called c answer =>
    obtain ⟨res, -, hres⟩ := Plan.eq_done_of_map h
    exact ⟨res, hres⟩

/-- Requests with the same method, headers and errand are served alike. -/
theorem serve_congr (hm : request.method = request'.method)
    (hh : request.headers = request'.headers)
    (he : Errand.ofRequest callbackPaths request = Errand.ofRequest callbackPaths' request') :
    serve s callbackPaths request = serve s callbackPaths' request' := by
  have hnaming : naming request = naming request' := by
    unfold naming HttpRequest.header?
    rw [hh]
  have hsent : sent request = sent request' := by
    unfold sent
    rw [hm]
  rw [serve_eq, serve_eq, hnaming, hsent, he]

/-- A request that is answered at once can only be served as one whose errand may
come to an answer of that status. -/
theorem mayAnswer_of_serve_eq (hh : request.headers = request'.headers)
    (h : serve s callbackPaths request = serve s callbackPaths' request')
    (he : Errand.ofRequest callbackPaths request = .answered response) :
    ∃ response', (Errand.ofRequest callbackPaths' request').MayAnswer response' ∧
      response'.status = response.status := by
  have hnaming : naming request = naming request' := by
    unfold naming HttpRequest.header?
    rw [hh]
  rw [serve_eq, serve_eq, hnaming, he] at h
  -- whether the request carries a name or gets one, the plans agree after it
  have hnamed : ∃ requestId, sent request requestId <$> (Errand.answered response).plan s =
      sent request' requestId <$> (Errand.ofRequest callbackPaths' request').plan s := by
    unfold naming at h
    cases hid : request'.header? "x-request-id" with
    | some requestId =>
      rw [hid] at h
      exact ⟨requestId, h⟩
    | none =>
      rw [hid] at h
      injection h with _ hnext
      exact ⟨"", congrFun hnext ""⟩
  obtain ⟨requestId, hplans⟩ := hnamed
  obtain ⟨response', hdone, hsent⟩ := Plan.eq_done_of_map hplans.symm
  refine ⟨response', Errand.mayAnswer_of_plan_eq hdone, ?_⟩
  rw [← sent_status, hsent, sent_status]

/-! ## Challenges -/

/-- The request as it is made at the path of the interface. -/
def HttpRequest.atInterface (request : HttpRequest) : HttpRequest :=
  { request with target := challengePath }

/-- The path of a request leads a challenge where the path of the interface
leads it. -/
def HttpRequest.TakesChallenge (callbackPaths : List String) (request : HttpRequest) : Prop :=
  (request.path = challengePath ∨ request.path ∈ callbackPaths) ∨
    recordParts request.path = none ∧ request.body.length ≤ maxBody

/-- The answer to a challenge where it is not taken: the path of a record can
only be looked at, and elsewhere the body is too long. -/
def challengeRefusal (request : HttpRequest) : HttpResponse :=
  if (recordParts request.path).isSome then .bare 405 [("allow", "GET,HEAD")]
  else .plain 413 tooLong

theorem HttpRequest.not_takesChallenge (h : ¬request.TakesChallenge callbackPaths) :
    ¬(request.path = challengePath ∨ request.path ∈ callbackPaths) ∧
      ((recordParts request.path).isSome ∨ maxBody < request.body.length) := by
  unfold HttpRequest.TakesChallenge at h
  rw [not_or, not_and_or, Nat.not_le] at h
  exact ⟨h.1, h.2.imp_left Option.isSome_iff_ne_none.2⟩

theorem challengeRefusal_status :
    (challengeRefusal request).status = 405 ∨ (challengeRefusal request).status = 413 := by
  unfold challengeRefusal
  split
  · exact .inl rfl
  · exact .inr rfl

/-- A well-formed challenge at the path of the interface. -/
theorem Errand.ofRequest_atInterface (hm : request.method = "POST") :
    ofRequest callbackPaths request.atInterface = atEndpoint request .challenge := by
  have hmethods : methodsOf callbackPaths request.atInterface.path = some challengeMethods := by
    have hpath : request.atInterface.path = challengePath := by
      have hplain : String.ofList (challengePath.toList.takeWhile fun c => c != '?' && c != '#') =
          challengePath := by decide
      exact hplain
    rw [hpath, methodsOf_of_looksLikeChallenge (by decide), if_pos (.inl rfl)]
  have hpost : request.atInterface.method = "POST" := hm
  unfold ofRequest
  rw [hmethods, hpost]
  rfl

/-- A challenge that is read is a call of the service. -/
theorem Errand.atEndpoint_challenge
    (htype : (request.header? "content-type").any MediaType.isJson = true)
    (hbody : ChallengeBody.reader.fromBytes request.body = .ok b) :
    atEndpoint request .challenge =
      if maxBody < request.body.length then answered (.ofError (.badRequest tooLong))
      else challenge b := by
  unfold atEndpoint readBody
  by_cases hlong : maxBody < request.body.length
  · simp only [htype, hlong, if_true]
    rfl
  · simp only [htype, hlong, hbody, if_false]
    rfl

/-- Where its path leads it to the interface's own route, a challenge has the
errand that it has there; elsewhere it is taken or refused at once. -/
theorem Errand.ofRequest_challenge (hm : request.method = "POST")
    (hends : looksLikeChallenge request.path = true)
    (hbody : ChallengeBody.reader.fromBytes request.body = .ok b) :
    ofRequest callbackPaths request =
      if request.path = challengePath ∨ request.path ∈ callbackPaths then
        atEndpoint request .challenge
      else if (recordParts request.path).isSome ∨ maxBody < request.body.length then
        answered (challengeRefusal request)
      else challenge b := by
  unfold ofRequest
  rw [methodsOf_of_looksLikeChallenge hends, hm]
  by_cases htold : request.path = challengePath ∨ request.path ∈ callbackPaths
  · simp only [if_pos htold]
    rfl
  simp only [if_neg htold]
  by_cases hrecord : (recordParts request.path).isSome
  · have hallowed : allowed [("GET", .lookup)] = "GET,HEAD" := by decide
    have hpost : endpointOf [("GET", .lookup)] "POST" = none := by decide
    simp [hrecord, hallowed, hpost, challengeRefusal]
  · by_cases hlong : maxBody < request.body.length
    · simp [hrecord, hlong, challengeRefusal, offRoute]
    · simp only [hrecord, hlong, offRoute, hm, hends, hbody]
      rfl

/-- Where a challenge is not taken, it is refused at once. -/
theorem Errand.ofRequest_refused (hm : request.method = "POST")
    (hends : looksLikeChallenge request.path = true)
    (hbody : ChallengeBody.reader.fromBytes request.body = .ok b)
    (h : ¬request.TakesChallenge callbackPaths) :
    ofRequest callbackPaths request = answered (challengeRefusal request) := by
  obtain ⟨htold, hrest⟩ := HttpRequest.not_takesChallenge h
  rw [ofRequest_challenge hm hends hbody, if_neg htold, if_pos hrest]

/-- The path of the interface never refuses a challenge like that. -/
theorem serve_ne_of_refused (hm : request.method = "POST")
    (hends : looksLikeChallenge request.path = true)
    (htype : (request.header? "content-type").any MediaType.isJson = true)
    (hbody : ChallengeBody.reader.fromBytes request.body = .ok b)
    (h : ¬request.TakesChallenge callbackPaths) :
    serve s callbackPaths request ≠ serve s callbackPaths request.atInterface := by
  intro hserve
  have hheaders : request.headers = request.atInterface.headers := rfl
  obtain ⟨response, hmay, hstatus⟩ :=
    mayAnswer_of_serve_eq hheaders hserve (Errand.ofRequest_refused hm hends hbody h)
  rw [Errand.ofRequest_atInterface hm, Errand.atEndpoint_challenge htype hbody] at hmay
  have hunread : response.status = 405 ∨ response.status = 413 :=
    hstatus ▸ challengeRefusal_status
  split at hmay
  · have hread : response.status = 400 := congrArg HttpResponse.status hmay
    omega
  · obtain ⟨res, rfl⟩ := hmay
    obtain ⟨hmethod, hlong⟩ := resultAnswer_status res
    exact hunread.elim hmethod hlong

/-- **A challenge is taken as at the path of the interface** exactly at that path,
at the paths that the subscriber was told, and at the others with the same end
that are not the path of a record, if its body is not too long.  Anywhere else it
is refused at once. -/
theorem serve_challenge_iff (s : Service) (callbackPaths : List String)
    (hm : request.method = "POST") (hends : looksLikeChallenge request.path = true)
    (htype : (request.header? "content-type").any MediaType.isJson = true)
    (hbody : ChallengeBody.reader.fromBytes request.body = .ok b) :
    (serve s callbackPaths request = serve s callbackPaths request.atInterface ↔
      request.TakesChallenge callbackPaths) ∧
    (¬request.TakesChallenge callbackPaths →
      Errand.ofRequest callbackPaths request = .answered (challengeRefusal request)) := by
  refine ⟨⟨fun hserve => ?_, fun htakes => ?_⟩, Errand.ofRequest_refused hm hends hbody⟩
  · by_contra htakes
    exact serve_ne_of_refused hm hends htype hbody htakes hserve
  · have hheaders : request.headers = request.atInterface.headers := rfl
    refine serve_congr rfl hheaders ?_
    rw [Errand.ofRequest_challenge hm hends hbody, Errand.ofRequest_atInterface hm]
    rcases htakes with htold | ⟨hrecord, hshort⟩
    · rw [if_pos htold]
    · have hnot : ¬((recordParts request.path).isSome ∨ maxBody < request.body.length) := by
        simp [hrecord, hshort]
      rw [if_neg hnot, Errand.atEndpoint_challenge htype hbody, if_neg (Nat.not_lt.2 hshort),
        ite_self]

/-- A challenge that is sent to a path. -/
def challengeAt (path : String) : HttpRequest :=
  ⟨"POST", path, [("content-type", "application/json")], Text.bytesOf
    "\x7b\"subscriber_id\":\"subscriber\",\"key_id\":\"key\",\"challenge\":\"\"\x7d"⟩

/-- It is well-formed. -/
theorem fromBytes_challengeAt (path : String) :
    ChallengeBody.reader.fromBytes (challengeAt path).body =
      .ok ⟨"subscriber", some "key", ""⟩ := by
  have hread : (ChallengeBody.reader.fromBytes (challengeAt "").body).toOption =
      some ⟨"subscriber", some "key", ""⟩ := by decide +kernel
  cases hbody : ChallengeBody.reader.fromBytes (challengeAt "").body with
  | ok b =>
    rw [hbody] at hread
    obtain rfl := Option.some.inj hread
    exact hbody
  | error e =>
    rw [hbody] at hread
    cases hread

/-- The end that a registry adds to the address of a subscriber is enough. -/
theorem serve_challenge_suffixed :
    serve .sample [] (challengeAt "/beckn/on_subscribe") =
      serve .sample [] (challengeAt "/beckn/on_subscribe").atInterface := by
  have htakes : (challengeAt "/beckn/on_subscribe").TakesChallenge [] :=
    .inr ⟨by decide +kernel, by decide +kernel⟩
  exact (serve_challenge_iff .sample [] rfl (by decide +kernel) (by decide +kernel)
    (fromBytes_challengeAt _)).1.2 htakes

/-- It is not where the path reads as that of a record. -/
theorem serve_challenge_shadowed : readCallbackPaths "" = .ok [] ∧
    (challengeAt "/subscriptions/acme.org/on_subscribe").method = "POST" ∧
    looksLikeChallenge (challengeAt "/subscriptions/acme.org/on_subscribe").path = true ∧
    ((challengeAt "/subscriptions/acme.org/on_subscribe").header? "content-type").any
      MediaType.isJson = true ∧
    ChallengeBody.reader.fromBytes (challengeAt "/subscriptions/acme.org/on_subscribe").body =
      .ok ⟨"subscriber", some "key", ""⟩ ∧
    serve .sample [] (challengeAt "/subscriptions/acme.org/on_subscribe") ≠
      serve .sample [] (challengeAt "/subscriptions/acme.org/on_subscribe").atInterface := by
  have hends : looksLikeChallenge (challengeAt "/subscriptions/acme.org/on_subscribe").path =
      true := by decide +kernel
  have htype : ((challengeAt "/subscriptions/acme.org/on_subscribe").header? "content-type").any
      MediaType.isJson = true := by decide +kernel
  have hrefused :
      ¬(challengeAt "/subscriptions/acme.org/on_subscribe").TakesChallenge [] := by
    unfold HttpRequest.TakesChallenge
    decide +kernel
  exact ⟨by decide +kernel, rfl, hends, htype, fromBytes_challengeAt _,
    serve_ne_of_refused rfl hends htype (fromBytes_challengeAt _) hrefused⟩

/-! ## Paths of routes -/

/-- The path of a record, with its parts left open. -/
def recordPattern : String := "/subscriptions/\x7bsubscriber_id\x7d/\x7bkey_id\x7d"

/-- The paths of all routes. -/
def registeredPaths (callbackPaths : List String) : List String :=
  recordPattern :: (literalRoutes callbackPaths).map Prod.fst

/-- A further path is a route of its own unless there is one for it. -/
theorem map_fst_addChallenge : (addChallenge added routes).map Prod.fst =
    if added ∈ routes.map Prod.fst then routes.map Prod.fst
    else routes.map Prod.fst ++ [added] := by
  induction routes with
  | nil => rfl
  | cons route rest ih =>
    obtain ⟨other, methods⟩ := route
    unfold addChallenge
    by_cases hadded : added = other
    · simp [hadded]
    · rw [if_neg hadded, List.map_cons, List.map_cons, ih]
      by_cases hrest : added ∈ rest.map Prod.fst
      · rw [if_pos hrest, if_pos (List.mem_cons_of_mem _ hrest)]
      · rw [if_neg hrest, if_neg (List.not_mem_cons_of_ne_of_not_mem hadded hrest),
          List.cons_append]

/-- Further paths leave the paths of the routes distinct, and add themselves
only. -/
theorem nodup_addChallenges (added : List String) (h : (routes.map Prod.fst).Nodup) :
    ((added.foldl (fun routes path => addChallenge path routes) routes).map Prod.fst).Nodup ∧
      ∀ path ∈ (added.foldl (fun routes path => addChallenge path routes) routes).map Prod.fst,
        path ∈ added ∨ path ∈ routes.map Prod.fst := by
  induction added generalizing routes with
  | nil => exact ⟨h, fun path hp => .inr hp⟩
  | cons first added ih =>
    have hfirst : ((addChallenge first routes).map Prod.fst).Nodup := by
      rw [map_fst_addChallenge]
      split
      · exact h
      · rename_i hnew
        exact List.nodup_append.2 ⟨h, List.nodup_singleton _, by
          simpa using fun path hp => ne_of_mem_of_not_mem hp hnew⟩
    obtain ⟨hdistinct, hpaths⟩ := ih hfirst
    refine ⟨hdistinct, fun path hp => ?_⟩
    rcases hpaths path hp with hp | hp
    · exact .inl (List.mem_cons_of_mem _ hp)
    · rw [map_fst_addChallenge] at hp
      split at hp
      · exact .inr hp
      · rcases List.mem_append.1 hp with hp | hp
        · exact .inr hp
        · exact .inl (List.mem_singleton.1 hp ▸ List.mem_cons_self)

/-- No two routes have the same path. -/
theorem nodup_registeredPaths {raw : String} (h : readCallbackPaths raw = .ok callbackPaths) :
    (registeredPaths callbackPaths).Nodup := by
  have hinterface : (interfaceRoutes.map Prod.fst).Nodup := by decide
  obtain ⟨hdistinct, hpaths⟩ := nodup_addChallenges (challengePath :: callbackPaths) hinterface
  refine List.nodup_cons.2 ⟨fun hmem => ?_, hdistinct⟩
  -- only the path of a record has braces
  have hopen : '\x7b' ∈ recordPattern.toList := by decide
  have hliteral : ∀ path ∈ challengePath :: interfaceRoutes.map Prod.fst,
      '\x7b' ∉ path.toList := by decide
  rcases hpaths _ hmem with htold | hown
  · rcases List.mem_cons.1 htold with heq | htold
    · exact hliteral _ List.mem_cons_self (heq ▸ hopen)
    · exact ((isCallbackPath_of_mem h htold).literal _ hopen).2 (by decide)
  · exact hliteral _ (List.mem_cons_of_mem _ hown) hopen

/-! ## Requests that the interface answers itself -/

/-- The request asks for something at a path of the interface, or for the record
that its path names. -/
def HttpRequest.IsOwned (request : HttpRequest) : Prop :=
  (request.method, request.path) ∈ [("GET", "/health"), ("GET", "/ready"), ("POST", "/subscribe"),
    ("PATCH", "/subscribe"), ("POST", "/updateStatus")] ∨
    request.method = "GET" ∧ (recordParts request.path).isSome

/-- A request of the interface at a path that may be told asks for a record. -/
theorem HttpRequest.IsOwned.record {raw : String} (ho : request.IsOwned)
    (h : readCallbackPaths raw = .ok callbackPaths) (hp : request.path ∈ callbackPaths) :
    request.method = "GET" ∧ (recordParts request.path).isSome := by
  rcases ho with hinterface | hrecord
  · have hreserved : ∀ r ∈ [("GET", "/health"), ("GET", "/ready"), ("POST", "/subscribe"),
        ("PATCH", "/subscribe"), ("POST", "/updateStatus")], r.2 ∈ reservedPaths := by decide
    exact absurd (hreserved _ hinterface) (isCallbackPath_of_mem h hp).free
  · exact hrecord

/-- The path of a record is none of the interface's literal ones. -/
theorem lookup_interfaceRoutes_of_recordParts (h : (recordParts path).isSome) :
    interfaceRoutes.lookup path = none := by
  have hliteral : ∀ route ∈ interfaceRoutes, recordParts route.1 = none := by decide
  rw [List.lookup_eq_none_iff]
  intro route hroute
  have hne : path ≠ route.1 := by
    rintro rfl
    rw [hliteral route hroute] at h
    cases h
  exact bne_iff_ne.2 hne

/-- A record can be asked for at its path, -/
theorem Errand.ofRequest_record (hm : request.method = "GET")
    (hrecord : (recordParts request.path).isSome) :
    ofRequest [] request = lookup request.path := by
  have hne : request.path ≠ challengePath := by
    intro heq
    have hnone : recordParts challengePath = none := by decide
    rw [heq, hnone] at hrecord
    cases hrecord
  have hliteral : (literalRoutes []).lookup request.path = none := by
    rw [lookup_literalRoutes (lookup_interfaceRoutes_of_recordParts hrecord), if_neg]
    simpa using hne
  unfold ofRequest methodsOf
  rw [hliteral, hm]
  simp only [hrecord, if_true]
  rfl

/-- unless challenges are taken there. -/
theorem Errand.ofRequest_shadowed (hm : request.method = "GET")
    (hrecord : (recordParts request.path).isSome) (hp : request.path ∈ callbackPaths) :
    ofRequest callbackPaths request = answered (.bare 405 [("allow", "POST")]) := by
  have hliteral : (literalRoutes callbackPaths).lookup request.path = some challengeMethods := by
    rw [lookup_literalRoutes (lookup_interfaceRoutes_of_recordParts hrecord), if_pos (.inr hp)]
  have hallowed : allowed challengeMethods = "POST" := by decide
  unfold ofRequest methodsOf
  rw [hliteral, hm]
  simp only [hallowed]
  rfl

/-- Looking for a record is never refused for its method. -/
theorem Errand.lookup_status {response : HttpResponse} (h : (recordParts path).isSome)
    (hmay : (lookup path).MayAnswer response) : response.status ≠ 405 := by
  obtain ⟨⟨subscriberId, keyId⟩, hparts⟩ := Option.isSome_iff_exists.1 h
  unfold lookup at hmay
  rw [hparts] at hmay
  dsimp only at hmay
  split at hmay
  · obtain rfl := hmay
    decide
  · obtain rfl := hmay
    decide
  · obtain ⟨res, rfl⟩ := hmay
    exact (resultAnswer_status res).1

/-- Where challenges are taken at the path of a record, the record cannot be seen
as before. -/
theorem serve_ne_of_shadowed (hm : request.method = "GET")
    (hrecord : (recordParts request.path).isSome) (hp : request.path ∈ callbackPaths) :
    serve s callbackPaths request ≠ serve s [] request := by
  intro hserve
  obtain ⟨response, hmay, hstatus⟩ :=
    mayAnswer_of_serve_eq rfl hserve (Errand.ofRequest_shadowed hm hrecord hp)
  rw [Errand.ofRequest_record hm hrecord] at hmay
  exact Errand.lookup_status hrecord hmay hstatus

/-- **Paths that the subscriber is told leave every request of the interface as it
was**, but for those that ask for a record at such a path: these are refused for
their method.  No two routes have the same path. -/
theorem serve_owned_iff (s : Service) {raw : String}
    (h : readCallbackPaths raw = .ok callbackPaths) :
    (∀ request : HttpRequest, request.IsOwned →
      (serve s callbackPaths request = serve s [] request ↔ request.path ∉ callbackPaths) ∧
      (request.path ∈ callbackPaths →
        request.method = "GET" ∧ (recordParts request.path).isSome ∧
          Errand.ofRequest callbackPaths request = .answered (.bare 405 [("allow", "POST")]))) ∧
    (registeredPaths callbackPaths).Nodup := by
  refine ⟨fun request ho => ⟨⟨fun hserve hp => ?_, fun hp => ?_⟩, fun hp => ?_⟩,
    nodup_registeredPaths h⟩
  · obtain ⟨hm, hrecord⟩ := ho.record h hp
    exact serve_ne_of_shadowed hm hrecord hp hserve
  · refine serve_congr rfl rfl ?_
    unfold Errand.ofRequest answerOptions
    rw [methodsOf_of_not_mem hp]
  · obtain ⟨hm, hrecord⟩ := ho.record h hp
    exact ⟨hm, hrecord, Errand.ofRequest_shadowed hm hrecord hp⟩

/-- A request for the record of a subscriber's key. -/
def recordRequest : HttpRequest := ⟨"GET", "/subscriptions/acme.org/k1", [], []⟩

/-- A path beside it leaves the record where it was. -/
theorem serve_owned_beside :
    readCallbackPaths "acme/on_subscribe, /subscriptions/acme.org/k2" =
      .ok ["/acme/on_subscribe", "/subscriptions/acme.org/k2"] ∧
    serve .sample ["/acme/on_subscribe", "/subscriptions/acme.org/k2"] recordRequest =
      serve .sample [] recordRequest := by
  have hread : readCallbackPaths "acme/on_subscribe, /subscriptions/acme.org/k2" =
      .ok ["/acme/on_subscribe", "/subscriptions/acme.org/k2"] := by decide +kernel
  have howned : recordRequest.IsOwned := .inr (by decide +kernel)
  exact ⟨hread, ((serve_owned_iff .sample hread).1 recordRequest howned).1.2 (by decide +kernel)⟩

/-- A path that may be told hides the record that it names. -/
theorem serve_owned_shadowed :
    readCallbackPaths "/subscriptions/acme.org/k1" = .ok ["/subscriptions/acme.org/k1"] ∧
    recordRequest.IsOwned ∧
    serve .sample ["/subscriptions/acme.org/k1"] recordRequest ≠
      serve .sample [] recordRequest := by
  have hrecord : recordRequest.method = "GET" ∧ (recordParts recordRequest.path).isSome := by
    decide +kernel
  exact ⟨by decide +kernel, .inr hrecord,
    serve_ne_of_shadowed hrecord.1 hrecord.2 (by decide +kernel)⟩

end Http

end Enrolment
