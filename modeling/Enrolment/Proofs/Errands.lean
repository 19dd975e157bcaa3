import Enrolment.Http.Serve
import Enrolment.Proofs.World

/-!
# What requests lead to

A request leads to one call of the service at most.  What it leads to is found
out from the request alone, and so is the answer for every result of the call.

## Main definitions

* `Errand`, `Errand.plan` — an answer, or a call and the answers to its results.
* `Errand.ofRequest` — what a request leads to.
* `Served` — the answers that a request gets in a run.

## Main statements

* `respond_eq`, `serve_eq` — serving a request does its errand.
-/

namespace Enrolment.Http

variable {s : Service} {request : HttpRequest} {callbackPaths : List String}

/-! ## Errands -/

/-- What a request leads to. -/
inductive Errand
  /-- An answer at once. -/
  | answered (response : HttpResponse)
  /-- A call, and the answer to what it comes to. -/
  | called (c : Service.Call) (answer : Except ServiceError c.Result → HttpResponse)

namespace Errand

/-- Make the call, if there is one, and answer. -/
def plan (s : Service) : Errand → Plan HttpResponse
  | answered response => return response
  | called c answer => answer <$> (c.operation s).run

/-- The answer with the document of a result, or with its error. -/
def resultAnswer {α : Type} (toJson : α → Json.Value) : Except ServiceError α → HttpResponse
  | .ok a => .json 200 (toJson a)
  | .error e => .ofError (.ofService e)

/-- The errand of a request that may have failed to be read. -/
def ofRead {α : Type} (errand : α → Errand) : Except ApiError α → Errand
  | .ok a => errand a
  | .error e => answered (.ofError e)

/-- The errand of making a registration. -/
def create (b : RegistrationBody) : Errand :=
  called (.create b.identity b.role b.payload) (resultAnswer summaryJson)

/-- The errand of replacing a registration. -/
def update (b : RegistrationBody) : Errand :=
  called (.update b.identity b.role b.payload) (resultAnswer summaryJson)

/-- The errand of following a status. -/
def pushStatus (b : StatusBody) : Errand :=
  called (.pushStatus b.identity b.status) (resultAnswer summaryJson)

/-- The errand of answering a challenge. -/
def challenge (b : ChallengeBody) : Errand :=
  called (.answerChallenge b.subscriberId b.keyId b.challenge)
    (resultAnswer fun answer => (AnswerBody.mk answer).toJson)

/-- The answer that takes stock. -/
def readinessAnswer : Except ServiceError (List (Status × Nat)) → HttpResponse
  | .ok counts => .json 200 (.object [("ready", .bool true),
      ("subscriptions", .objectOf (counts.map fun c => (c.1.name, .nat c.2)))])
  | .error e => .json 503 (.object [("ready", .bool false), ("error", .text e.message)])

/-- The errand of showing the record that a path names. -/
def lookup (path : String) : Errand :=
  match recordParts path with
  | none => answered (.bare 404 [])
  | some (subscriberId, keyId) =>
    match decodePart subscriberId, decodePart keyId with
    | none, _ => answered (badPart .subscriberId)
    | _, none => answered (badPart .keyId)
    | some subscriberId, some keyId =>
      called (.get ⟨subscriberId, keyId⟩) (resultAnswer summaryJson)

/-- What a request leads to at an endpoint. -/
def atEndpoint (request : HttpRequest) : Endpoint → Errand
  | .health => answered (.json 200 healthJson)
  | .readiness => called .readiness readinessAnswer
  | .create => ofRead create (readBody RegistrationBody.reader request)
  | .update => ofRead update (readBody RegistrationBody.reader request)
  | .pushStatus => ofRead pushStatus (readBody StatusBody.reader request)
  | .lookup => lookup request.path
  | .challenge => ofRead challenge (readBody ChallengeBody.reader request)

/-- What a request leads to where no route does. -/
def offRoute (request : HttpRequest) : Errand :=
  if maxBody < request.body.length then answered (.plain 413 tooLong)
  else if request.method = "POST" ∧ looksLikeChallenge request.path then
    ofRead challenge ((ChallengeBody.reader.fromBytes request.body).mapError fun e =>
      .badRequest e.message)
  else answered (.ofError (.notFound ("No route for " ++ request.method ++ " " ++ request.path)))

/-- What a request leads to. -/
def ofRequest (callbackPaths : List String) (request : HttpRequest) : Errand :=
  if request.method = "OPTIONS" then answered (answerOptions callbackPaths request)
  else match methodsOf callbackPaths request.path with
    | none => offRoute request
    | some methods =>
      match endpointOf methods request.method with
      | some endpoint => atEndpoint request endpoint
      | none => answered (.bare 405 [("allow", allowed methods)])

end Errand

/-! ## Serving requests -/

theorem answerWith_eq {α : Type} {toJson : α → Json.Value} {operation : Operation α} :
    answerWith toJson operation = Errand.resultAnswer toJson <$> operation.run := by
  unfold answerWith
  rw [map_eq_pure_bind]
  congr 1
  funext res
  cases res <;> rfl

theorem answerBody_eq {α β : Type} {r : Json.Reader α} {toJson : β → Json.Value}
    {operation : α → Operation β} {errand : α → Errand}
    (h : ∀ a, answerWith toJson (operation a) = (errand a).plan s) :
    answerBody r request toJson operation = (Errand.ofRead errand (readBody r request)).plan s := by
  unfold answerBody
  cases readBody r request with
  | ok a => exact h a
  | error e => rfl

theorem answerReadiness_eq :
    answerReadiness = Errand.readinessAnswer <$> Service.readiness.run := by
  unfold answerReadiness
  rw [map_eq_pure_bind]
  congr 1
  funext res
  cases res <;> rfl

theorem answerLookup_eq (path : String) : answerLookup path = (Errand.lookup path).plan s := by
  unfold answerLookup Errand.lookup
  cases recordParts path with
  | none => rfl
  | some parts =>
    obtain ⟨subscriberId, keyId⟩ := parts
    dsimp only
    cases decodePart subscriberId with
    | none => rfl
    | some subscriberId =>
      cases decodePart keyId with
      | none => rfl
      | some keyId => exact answerWith_eq

theorem answer_challenge_eq (b : ChallengeBody) :
    answerWith AnswerBody.toJson (challengeAnswer s b) = (Errand.challenge b).plan s := by
  rw [answerWith_eq, challengeAnswer, ExceptT.run_map]
  unfold Errand.challenge Errand.plan
  rw [Functor.map_map]
  congr 1
  funext res
  cases res <;> rfl

/-- An endpoint does the errand of the request. -/
theorem respond_eq (endpoint : Endpoint) :
    respond s endpoint request = (Errand.atEndpoint request endpoint).plan s := by
  cases endpoint with
  | health => rfl
  | readiness => exact answerReadiness_eq
  | create | update | pushStatus => exact answerBody_eq fun _ => answerWith_eq
  | lookup => exact answerLookup_eq request.path
  | challenge => exact answerBody_eq answer_challenge_eq

theorem fallback_eq : fallback s request = (Errand.offRoute request).plan s := by
  unfold fallback Errand.offRoute
  split
  · rfl
  split
  · cases ChallengeBody.reader.fromBytes request.body with
    | ok b => exact answer_challenge_eq b
    | error e => rfl
  · rfl

theorem answerRoute_eq (h : request.method ≠ "OPTIONS") :
    answerRoute s callbackPaths request = (Errand.ofRequest callbackPaths request).plan s := by
  unfold answerRoute Errand.ofRequest
  rw [if_neg h]
  cases methodsOf callbackPaths request.path with
  | none => exact fallback_eq
  | some methods =>
    dsimp only
    cases endpointOf methods request.method with
    | none => rfl
    | some endpoint => exact respond_eq endpoint

/-- The name of a request: the one that it carries, or a new one. -/
def naming (request : HttpRequest) : Plan String :=
  match request.header? "x-request-id" with
  | some id => pure id
  | none => Plan.ask .freshName

/-- The answer to a request of a name as it goes out. -/
def sent (request : HttpRequest) (requestId : String) (response : HttpResponse) : HttpResponse :=
  (if request.method = "HEAD" then response.withoutBody else response).withHeaders
    (commonHeaders requestId)

/-- **Serving a request does its errand.**  The request gets a name before it, and
the answer its headers after it. -/
theorem serve_eq : serve s callbackPaths request = naming request >>= fun requestId =>
    sent request requestId <$> (Errand.ofRequest callbackPaths request).plan s := by
  unfold serve naming
  by_cases h : request.method = "OPTIONS"
  · have herrand : Errand.ofRequest callbackPaths request =
        .answered (answerOptions callbackPaths request) := if_pos h
    simp only [if_pos h, herrand]
    cases request.header? "x-request-id" <;> rfl
  · simp only [if_neg h, answerRoute_eq h, map_eq_pure_bind]
    cases request.header? "x-request-id" <;> rfl

/-! ## Requests in a run -/

/-- The errand came to an answer in a run: at once, or with the end of its call,
which is then the one that is answered for. -/
inductive Errand.Ended (w : World) (s : Service) : Errand → Option Running → HttpResponse → Prop
  /-- There is no call. -/
  | answered (response : HttpResponse) : Ended w s (.answered response) none response
  /-- The call has ended. -/
  | called {task : Task} {res : Except ServiceError task.call.Result}
      (hr : (⟨task, .done res⟩ : Running) ∈ w.running) (hs : task.service = s)
      (answer : Except ServiceError task.call.Result → HttpResponse) :
      Ended w s (.called task.call answer) (some ⟨task, .done res⟩) (answer res)

/-- A request got an answer in a run, from a process that was started with the
service, and for the call that it led to, if there was one. -/
inductive Served (w : World) (s : Service) (callbackPaths : List String) (request : HttpRequest) :
    Option Running → HttpResponse → Prop
  /-- Its errand has ended. -/
  | sent {caller : Option Running} {response : HttpResponse} (requestId : String)
      (h : (Errand.ofRequest callbackPaths request).Ended w s caller response) :
      Served w s callbackPaths request caller (sent request requestId response)

end Enrolment.Http
