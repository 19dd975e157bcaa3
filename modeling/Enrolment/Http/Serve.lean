import Enrolment.Http.Body
import Enrolment.Http.MediaType
import Enrolment.Http.Message
import Enrolment.Http.Route
import Enrolment.Service.Registration

/-!
# Serving requests

Every request is answered: by the endpoint that its path and method name, by a
refusal of the method, or, where no route leads, as a challenge if it looks like
one.  Every answer says that any page may read it, and carries the name of the
request.

## Main definitions

* `readBody` — the document that a request carries.
* `respond` — the answer of an endpoint.
* `fallback` — the answer where no route leads.
* `serve` — the answer to a request.
-/

namespace Enrolment.Http

/-- The most bytes of a body. -/
def maxBody : Nat := 2097152

/-- The wording of the refusal of a body that is too long. -/
def tooLong : String := "Failed to buffer the request body: length limit exceeded"

/-- The wording of a fault of a body. -/
def bodyFault : Json.ReadError → String
  | e@(.malformed) => "Failed to parse the request body as JSON: " ++ e.message
  | e@(.mismatch ..) =>
    "Failed to deserialize the JSON body into the target type: " ++ e.placedMessage

/-- The document that a request carries. -/
def readBody {α : Type} (r : Json.Reader α) (request : HttpRequest) : Except ApiError α := do
  if !((request.header? "content-type").any MediaType.isJson) then
    throw (.badRequest "Expected request with `Content-Type: application/json`")
  if maxBody < request.body.length then throw (.badRequest tooLong)
  (r.fromBytes request.body).mapError fun e => .badRequest (bodyFault e)

/-- The answer with the document of a result, or with its error. -/
def answerWith {α : Type} (toJson : α → Json.Value) (operation : Operation α) :
    Plan HttpResponse := do
  match ← operation.run with
  | .ok a => return .json 200 (toJson a)
  | .error e => return .ofError (.ofService e)

/-- The answer of an operation on the document that a request carries. -/
def answerBody {α β : Type} (r : Json.Reader α) (request : HttpRequest) (toJson : β → Json.Value)
    (operation : α → Operation β) : Plan HttpResponse :=
  match readBody r request with
  | .ok a => answerWith toJson (operation a)
  | .error e => return .ofError e

/-- The document that shows a record. -/
def summaryJson (r : Record) : Json.Value := r.summary.toJson

/-- The document that tells that the subscriber runs. -/
def healthJson : Json.Value := .object [("status", .text "ok"), ("service", .text "subscriber")]

/-- The answer that takes stock. -/
def answerReadiness : Plan HttpResponse := do
  match ← Service.readiness.run with
  | .ok counts =>
    let counts := Json.Value.objectOf (counts.map fun c => (c.1.name, .nat c.2))
    return .json 200 (.object [("ready", .bool true), ("subscriptions", counts)])
  | .error e => return .json 503 (.object [("ready", .bool false), ("error", .text e.message)])

/-- The refusal of a part of a path that is no text. -/
def badPart (field : Field) : HttpResponse :=
  .plain 400 ("Invalid URL: Invalid UTF-8 in `" ++ field.name ++ "`")

/-- The answer that shows the record that a path names. -/
def answerLookup (path : String) : Plan HttpResponse :=
  match recordParts path with
  | none => return .bare 404 []
  | some (subscriberId, keyId) =>
    match decodePart subscriberId, decodePart keyId with
    | none, _ => return badPart .subscriberId
    | _, none => return badPart .keyId
    | some subscriberId, some keyId => answerWith summaryJson (Service.get ⟨subscriberId, keyId⟩)

/-- The answer to a challenge. -/
def challengeAnswer (s : Service) (b : ChallengeBody) : Operation AnswerBody :=
  AnswerBody.mk <$> s.answerChallenge b.subscriberId b.keyId b.challenge

/-- The answer of an endpoint. -/
def respond (s : Service) (endpoint : Endpoint) (request : HttpRequest) : Plan HttpResponse :=
  match endpoint with
  | .health => return .json 200 healthJson
  | .readiness => answerReadiness
  | .create =>
    answerBody RegistrationBody.reader request summaryJson fun b =>
      Service.create b.identity b.role b.payload
  | .update =>
    answerBody RegistrationBody.reader request summaryJson fun b =>
      Service.update b.identity b.role b.payload
  | .pushStatus =>
    answerBody StatusBody.reader request summaryJson fun b => Service.pushStatus b.identity b.status
  | .lookup => answerLookup request.path
  | .challenge => answerBody ChallengeBody.reader request AnswerBody.toJson (challengeAnswer s)

/-- The path ends as those that take challenges do. -/
def looksLikeChallenge (path : String) : Bool :=
  challengePath.toList.isSuffixOf path.toList

/-- The answer where no route leads.  Registries add an end of their own to the
address of a subscriber, so a path with that end takes challenges. -/
def fallback (s : Service) (request : HttpRequest) : Plan HttpResponse :=
  if maxBody < request.body.length then return .plain 413 tooLong
  else if request.method = "POST" ∧ looksLikeChallenge request.path then
    match ChallengeBody.reader.fromBytes request.body with
    | .ok b => answerWith AnswerBody.toJson (challengeAnswer s b)
    | .error e => return .ofError (.badRequest e.message)
  else return .ofError (.notFound ("No route for " ++ request.method ++ " " ++ request.path))

/-- The answer of the routes. -/
def answerRoute (s : Service) (callbackPaths : List String) (request : HttpRequest) :
    Plan HttpResponse :=
  match methodsOf callbackPaths request.path with
  | none => fallback s request
  | some methods =>
    match endpointOf methods request.method with
    | some endpoint => respond s endpoint request
    | none => return .bare 405 [("allow", allowed methods)]

/-- The answer to the question what may be asked. -/
def answerOptions (callbackPaths : List String) (request : HttpRequest) : HttpResponse :=
  let allow := match methodsOf callbackPaths request.path with
    | some methods => [("allow", allowed methods)]
    | none => []
  .bare 200 <|
    [("access-control-allow-methods", "*"), ("access-control-allow-headers", "*")] ++ allow

/-- The headers that every answer carries, with the name of the request. -/
def commonHeaders (requestId : String) : List (String × String) :=
  [("access-control-allow-origin", "*"),
    ("vary", "origin, access-control-request-method, access-control-request-headers"),
    ("x-request-id", requestId)]

/-- The answer to a request. -/
def serve (s : Service) (callbackPaths : List String) (request : HttpRequest) :
    Plan HttpResponse := do
  let requestId ← match request.header? "x-request-id" with
    | some id => pure id
    | none => Plan.ask .freshName
  let response ←
    if request.method = "OPTIONS" then pure (answerOptions callbackPaths request)
    else answerRoute s callbackPaths request
  let response := if request.method = "HEAD" then response.withoutBody else response
  return response.withHeaders (commonHeaders requestId)

end Enrolment.Http
