import Enrolment.Text.Split
import Enrolment.Text.Percent

/-!
# Routes

A path leads to the endpoints that its methods name.  Most paths are literal and
go first; the path of a record holds the parts of an identity, which may be
written with percent signs.

Challenges are taken at a path of the interface and at any further paths that
the subscriber was told.

## Main definitions

* `Endpoint`, `Methods` — what a path leads to.
* `literalRoutes`, `methodsOf` — the literal routes, and what any path leads to.
* `allowed` — the methods of a path, as an answer lists them.
* `recordParts`, `decodePart` — the two parts of the path of a record, and the text
  that such a part writes.
-/

namespace Enrolment.Http

/-- What a request asks for. -/
inductive Endpoint
  /-- Whether the subscriber runs. -/
  | health
  /-- Whether its store can be reached. -/
  | readiness
  /-- To make a registration. -/
  | create
  /-- To replace a registration. -/
  | update
  /-- To follow a status. -/
  | pushStatus
  /-- To see a record. -/
  | lookup
  /-- To answer a challenge. -/
  | challenge
  deriving DecidableEq, Repr

/-- The endpoints of a path by their methods. -/
abbrev Methods := List (String × Endpoint)

/-- The end of the paths that take challenges without a route. -/
def challengePath : String := "/on_subscribe"

/-- The literal routes of the interface. -/
def interfaceRoutes : List (String × Methods) :=
  [("/health", [("GET", .health)]), ("/ready", [("GET", .readiness)]),
    ("/subscribe", [("POST", .create), ("PATCH", .update)]),
    ("/updateStatus", [("POST", .pushStatus)])]

/-- Let a path take challenges besides. -/
def addChallenge (path : String) : List (String × Methods) → List (String × Methods)
  | [] => [(path, [("POST", .challenge)])]
  | (other, methods) :: rest =>
    if path = other then
      (other, if (methods.lookup "POST").isSome then methods else methods ++ [("POST", .challenge)])
        :: rest
    else (other, methods) :: addChallenge path rest

/-- The literal routes with the paths that take challenges. -/
def literalRoutes (callbackPaths : List String) : List (String × Methods) :=
  (challengePath :: callbackPaths).foldl (fun routes path => addChallenge path routes)
    interfaceRoutes

/-- The two parts of the path of a record, as they are written. -/
def recordParts (path : String) : Option (List Char × List Char) :=
  match Text.fields '/' path.toList with
  | [[], start, subscriberId, keyId] =>
    if start = "subscriptions".toList ∧ keyId ≠ [] then some (subscriberId, keyId) else none
  | _ => none

/-- What a path leads to; none if it leads nowhere. -/
def methodsOf (callbackPaths : List String) (path : String) : Option Methods :=
  match (literalRoutes callbackPaths).lookup path with
  | some methods => some methods
  | none => if (recordParts path).isSome then some [("GET", .lookup)] else none

/-- The methods of a path, as an answer lists them. -/
def allowed (methods : Methods) : String :=
  ",".intercalate (methods.map fun m => if m.1 = "GET" then "GET,HEAD" else m.1)

/-- The endpoint of a method.  What can be seen can also be asked for without
seeing it. -/
def endpointOf (methods : Methods) (method : String) : Option Endpoint :=
  methods.lookup (if method = "HEAD" then "GET" else method)

/-! ## The parts of a path -/

/-- The text that a part of a path writes, if it is one. -/
def decodePart (part : List Char) : Option String :=
  Text.text? (Text.percentDecode (Text.encode part))

end Enrolment.Http
