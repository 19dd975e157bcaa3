import Enrolment.Http.Error
import Enrolment.Text.Utf8

/-!
# Requests and answers

## Main definitions

* `HttpRequest`, `HttpResponse` — what comes in, and what goes out.
* `HttpResponse.json`, `HttpResponse.plain`, `HttpResponse.bare` — answers with a
  document, with a line of text, and with nothing.
* `HttpResponse.ofError` — the answer that tells an error.
-/

namespace Enrolment.Http

/-- A request that comes in. -/
structure HttpRequest where
  /-- The method. -/
  method : String
  /-- The path, and perhaps a query. -/
  target : String
  /-- The headers, with their names in lower case. -/
  headers : List (String × String)
  /-- The body. -/
  body : Bytes
  deriving DecidableEq, Repr

namespace HttpRequest

/-- The path without the query. -/
def path (r : HttpRequest) : String :=
  String.ofList (r.target.toList.takeWhile fun c => c != '?' && c != '#')

/-- The value of a header. -/
def header? (r : HttpRequest) (name : String) : Option String := r.headers.lookup name

end HttpRequest

/-- An answer that goes out. -/
structure HttpResponse where
  /-- The status. -/
  status : Nat
  /-- The headers, with their names in lower case. -/
  headers : List (String × String)
  /-- The body. -/
  body : Bytes
  deriving DecidableEq, Repr

namespace HttpResponse

/-- An answer with a document. -/
def json (status : Nat) (v : Json.Value) : HttpResponse :=
  ⟨status, [("content-type", "application/json")], Text.encode v.chars⟩

/-- An answer with a line of text. -/
def plain (status : Nat) (text : String) : HttpResponse :=
  ⟨status, [("content-type", "text/plain; charset=utf-8")], Text.bytesOf text⟩

/-- An answer with nothing. -/
def bare (status : Nat) (headers : List (String × String)) : HttpResponse := ⟨status, headers, []⟩

/-- The answer that tells an error. -/
def ofError (e : ApiError) : HttpResponse := json e.status e.body

/-- The answer with further headers. -/
def withHeaders (r : HttpResponse) (headers : List (String × String)) : HttpResponse :=
  { r with headers := r.headers ++ headers }

/-- The answer without its body. -/
def withoutBody (r : HttpResponse) : HttpResponse := { r with body := [] }

end HttpResponse

end Enrolment.Http
