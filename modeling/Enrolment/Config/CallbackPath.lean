import Enrolment.Text.Blank
import Enrolment.Text.Split

/-!
# Callback paths

A subscriber may take challenges at further paths, given as a list between
commas.  A path is literal: it holds no blanks and none of the characters that
stand for patterns elsewhere.  It may not be one of the paths of the interface,
with or without its leading slash.

## Main definitions

* `CallbackPathError` — why a path cannot serve.
* `readCallbackPath`, `readCallbackPaths` — a path, and a list of them.
-/

namespace Enrolment

/-- The paths of the interface that no callback path may take. -/
def reservedPaths : List String := ["/health", "/ready", "/subscribe", "/updateStatus"]

/-- Why a path cannot serve. -/
inductive CallbackPathError
  /-- It is not literal. -/
  | notLiteral (path : String)
  /-- It is a path of the interface. -/
  | reserved (path : String)
  deriving DecidableEq, Repr

/-- The character may not stand in a path. -/
def isPatternChar (c : Char) : Bool := Text.isBlank c || c ∈ ['{', '}', '*', ':']

/-- A path with its leading slash. -/
def withSlash : List Char → List Char
  | '/' :: cs => '/' :: cs
  | cs => '/' :: cs

/-- The path that a part of the list writes. -/
def readCallbackPath (part : List Char) : Except CallbackPathError String :=
  if part.any isPatternChar then .error (.notLiteral (String.ofList part))
  else
    let path := String.ofList (withSlash part)
    if path ∈ reservedPaths then .error (.reserved path) else .ok path

/-- The parts of a list that are not blank, without the blanks around them. -/
def callbackParts (raw : String) : List (List Char) :=
  ((Text.fields ',' raw.toList).map Text.trim).filter (!·.isEmpty)

/-- The paths that a list writes. -/
def readCallbackPaths (raw : String) : Except CallbackPathError (List String) :=
  (callbackParts raw).mapM readCallbackPath

end Enrolment
