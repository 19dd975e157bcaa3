/-!
# Media types

A body is taken as a document if its media type says so: `application/json`, or
an application type whose name ends in `+json`, in any case and with any
parameters.  A text that is no media type says nothing.

## Main definitions

* `MediaType.read?` — the type, the name and its suffix that a text gives.
* `MediaType.isJson` — the text gives a type of documents.
-/

namespace Enrolment.Http

/-- A media type without its parameters. -/
structure MediaType where
  /-- The type. -/
  type : String
  /-- The name, without its suffix. -/
  name : String
  /-- What follows the last plus sign in the name. -/
  suffix : Option String
  deriving DecidableEq, Repr

namespace MediaType

/-- The character may stand in a word. -/
def isWordChar (c : Char) : Bool :=
  c.isAlphanum || c ∈ ['!', '#', '$', '%', '&', '\'', '*', '+', '-', '.', '^', '_', Char.ofNat 96,
    '|', '~']

/-- What follows a quoted value. -/
def afterQuoted : List Char → Option (List Char)
  | [] => none
  | '"' :: rest =>
    match rest.dropWhile (· = ' ') with
    | [] => some []
    | ';' :: rest => some rest
    | _ => none
  | c :: rest => if 31 < c.toNat ∧ c.toNat ≠ 127 then afterQuoted rest else none

/-- What follows the value of a parameter, and the semicolon after it. -/
def afterValue (cs : List Char) : Option (List Char) :=
  match cs with
  | '"' :: [] => none
  | '"' :: c :: rest =>
    -- a quoted value is never empty: a quote at its start belongs to it
    if 31 < c.toNat ∧ c.toNat ≠ 127 then afterQuoted rest else none
  | cs =>
    match cs.dropWhile isWordChar with
    | [] => some []
    | ';' :: rest => if cs.head? = some ';' then none else some rest
    | _ => none

/-- What follows a parameter. -/
def afterParameter (cs : List Char) : Option (List Char) :=
  match cs.dropWhile isWordChar with
  | '=' :: rest => if cs.head? = some '=' then none else afterValue rest
  | _ => none

/-- The text holds parameters, each after blanks, at most so many. -/
def areParameters : (most : Nat) → List Char → Bool
  | 0, cs => cs.isEmpty
  | most + 1, cs =>
    match cs.dropWhile (· = ' ') with
    | [] => true
    | cs =>
      match afterParameter cs with
      | none => false
      | some rest => areParameters most rest

/-- The place of the last plus sign after the first character. -/
def lastPlus (name : List Char) : Option Nat :=
  (name.zipIdx.filter fun (c, i) => c = '+' ∧ 0 < i).getLast?.map Prod.snd

/-- The media type that a text gives, in lower case. -/
def read? (s : String) : Option MediaType :=
  let cs := s.toList
  match cs.dropWhile isWordChar with
  | '/' :: rest =>
    let type := cs.takeWhile isWordChar
    let name := rest.takeWhile isWordChar
    let lower := fun (cs : List Char) => String.ofList (cs.map Char.toLower)
    let isSound := match rest.dropWhile isWordChar with
      | [] => true
      | ';' :: parameters => !name.isEmpty && areParameters parameters.length parameters
      | _ => false
    if type.isEmpty || !isSound then none
    else match lastPlus name with
      | none => some ⟨lower type, lower name, none⟩
      | some i => some ⟨lower type, lower (name.take i), some (lower (name.drop (i + 1)))⟩
  | _ => none

/-- The character is a visible one of ASCII, a blank or a tab. -/
def isVisible (c : Char) : Bool := (32 ≤ c.toNat && c.toNat < 127) || c = '\t'

/-- The text gives a type of documents. -/
def isJson (s : String) : Bool :=
  match read? s with
  | none => false
  | some m =>
    s.toList.all isVisible && m.type == "application" &&
      (m.name == "json" || m.suffix == some "json")

end MediaType

end Enrolment.Http
