import Enrolment.Json.Document
import Enrolment.Json.Value
import Enrolment.Text.Quoted
import Enrolment.Time.Reading

/-!
# Reading documents

A reader takes what it wants out of a tree, walking it in the order of the
document.  It stops at the first fault it meets: a place where the document is
malformed, or a value of the wrong shape, reported with the place of the value
and what was found and wanted there.

Parts that nobody asks for are passed over: they must be well formed, but their
texts and numbers are not looked into.  Containers may be nested 127 deep where
a reader enters them.

A structure is read from an object, whose members may come in any order, or from
an array that holds its members in the order of their declaration.

## Main definitions

* `Found`, `Problem`, `Place`, `ReadError` — the faults, and their wording.
* `Reader` — what takes a value out of a tree.
* `text`, `maybe`, `word64`, `moment`, `value` — the basic readers.
* `Member`, `struct` — structures.
* `Reader.fromText`, `Reader.fromBytes` — a whole document.
-/

namespace Enrolment.Json

/-! ## Faults -/

/-- What was found where something else was wanted. -/
inductive Found
  /-- The null value. -/
  | null
  /-- A truth value. -/
  | bool (b : Bool)
  /-- A number. -/
  | number (n : Number)
  /-- A text. -/
  | text (s : String)
  /-- An array. -/
  | sequence
  /-- An object. -/
  | map

/-- The description of what was found. -/
def Found.message : Found → String
  | .null => "null"
  | .bool b => "boolean `" ++ (if b then "true" else "false") ++ "`"
  | .number (.double x) => "floating point `" ++ String.ofList (Number.doubleText x) ++ "`"
  | .number n => "integer `" ++ String.ofList n.text ++ "`"
  | .text s => "string " ++ Text.shown s
  | .sequence => "sequence"
  | .map => "map"

/-- What is wrong with a value. -/
inductive Problem
  /-- It is of another kind. -/
  | wrongType (found : Found) (wanted : String)
  /-- It is of the right kind and out of range. -/
  | wrongValue (found : Found) (wanted : String)
  /-- An array ends before a member that may not be left out. -/
  | wrongLength (length : Nat) (wanted : String)
  /-- It is none of the names that may stand here. -/
  | unknownVariant (name : String) (variants : List String)
  /-- A member that may not be left out is. -/
  | missing (name : String)
  /-- A member is given twice. -/
  | duplicate (name : String)
  /-- It is no moment. -/
  | moment (e : MomentError)

/-- The wording of a problem. -/
def Problem.message : Problem → String
  | .wrongType found wanted => "invalid type: " ++ found.message ++ ", expected " ++ wanted
  | .wrongValue found wanted => "invalid value: " ++ found.message ++ ", expected " ++ wanted
  | .wrongLength length wanted => "invalid length " ++ Nat.repr length ++ ", expected " ++ wanted
  | .unknownVariant name variants =>
    "unknown variant `" ++ name ++ "`, expected one of " ++
      ", ".intercalate (variants.map fun v => "`" ++ v ++ "`")
  | .missing name => "missing field `" ++ name ++ "`"
  | .duplicate name => "duplicate field `" ++ name ++ "`"
  | .moment e => e.message

/-- A step from a structure to one of its parts. -/
inductive Place
  /-- The member of an object. -/
  | member (name : String)
  /-- The item of an array. -/
  | item (index : Nat)
  deriving DecidableEq, Repr

/-- Why a document could not be read. -/
inductive ReadError
  /-- It is malformed. -/
  | malformed
  /-- The value at the end of the path has a problem. -/
  | mismatch (path : List Place) (problem : Problem)

namespace ReadError

/-- The error seen from the structure around it. -/
def within (place : Place) : ReadError → ReadError
  | .malformed => .malformed
  | .mismatch path problem => .mismatch (place :: path) problem

/-- The path as it is written: names after points, indices in brackets. -/
def pathText : List Place → String
  | [] => ""
  | [.member name] => name
  | .member name :: rest@(.member _ :: _) => name ++ "." ++ pathText rest
  | .member name :: rest => name ++ pathText rest
  | .item index :: rest => "[" ++ Nat.repr index ++ "]" ++ pathText rest

/-- The error seen from where its place is not known. -/
def withoutPlace : ReadError → ReadError
  | .malformed => .malformed
  | .mismatch _ problem => .mismatch [] problem

/-- The wording of the error, without its place. -/
def message : ReadError → String
  | .malformed => "<json syntax>"
  | .mismatch _ problem => problem.message

/-- The wording of the error, after its place in the structure that was read. -/
def placedMessage : ReadError → String
  | .malformed => "<json syntax>"
  | .mismatch [] problem => problem.message
  | .mismatch path problem => pathText path ++ ": " ++ problem.message

end ReadError

/-! ## Basic readers -/

/-- What takes a value out of a tree that lies inside `depth` open containers. -/
abbrev Reader (α : Type) := (depth : Nat) → Tree → Except ReadError α

/-- How deep containers may be nested. -/
def maxDepth : Nat := 127

/-- What stands in the place of a value. -/
def found : Tree → Except ReadError Found
  | .broken => .error .malformed
  | .null => .ok .null
  | .bool b => .ok (.bool b)
  | .numeral n =>
    match n.number? with
    | some n => .ok (.number n)
    | none => .error .malformed
  | .text (some s) => .ok (.text s)
  | .text none => .error .malformed
  | .array _ _ => .ok .sequence
  | .object _ _ => .ok .map

/-- Refuse a value because something else is wanted. -/
def refuse {α : Type} (wanted : String) (t : Tree) : Except ReadError α :=
  match found t with
  | .ok f => .error (.mismatch [] (.wrongType f wanted))
  | .error e => .error e

/-- A text. -/
def text : Reader String
  | _, .text (some s) => .ok s
  | _, t => refuse "a string" t

/-- A value or null. -/
def maybe {α : Type} (r : Reader α) : Reader (Option α)
  | _, .null => .ok none
  | depth, t => (r depth t).map some

/-- A natural number of 64 bits. -/
def word64 : Reader Nat := fun _ t =>
  match found t with
  | .error e => .error e
  | .ok (.number (.natural n)) => .ok n.toNat
  | .ok (.number (.negSucc n)) =>
    .error (.mismatch [] (.wrongValue (.number (.negSucc n)) "u64"))
  | .ok f => .error (.mismatch [] (.wrongType f "u64"))

/-- A moment. -/
def moment : Reader Moment
  | _, .text (some s) =>
    match Moment.read s with
    | .ok t => .ok t
    | .error e => .error (.mismatch [] (.moment e))
  | _, t => refuse "an RFC 3339 formatted date and time string" t

mutual

/-- Any value. -/
def value : Reader Value
  | _, .null => .ok .null
  | _, .bool b => .ok (.bool b)
  | _, .numeral n =>
    match n.number? with
    | some n => .ok (.number n)
    | none => .error .malformed
  | _, .text (some s) => .ok (.text s)
  | _, .text none => .error .malformed
  | depth, .array items closed =>
    if depth < maxDepth then
      match itemValues (depth + 1) [] items with
      | .ok vs => if closed then .ok (.array vs) else .error .malformed
      | .error e => .error e
    else .error .malformed
  | depth, .object members closed =>
    if depth < maxDepth then
      match memberValues (depth + 1) [] members with
      | .ok ms => if closed then .ok (Value.objectOf ms) else .error .malformed
      | .error e => .error e
    else .error .malformed
  | _, .broken => .error .malformed

/-- Any values in a row, onto those read so far, the last of them first. -/
def itemValues (depth : Nat) (read : List Value) : List Tree → Except ReadError (List Value)
  | [] => .ok read.reverse
  | t :: ts =>
    match value depth t with
    | .ok v => itemValues depth (v :: read) ts
    | .error e => .error e

/-- Any named values in a row, onto those read so far, the last of them first. -/
def memberValues (depth : Nat) (read : List (String × Value)) :
    List (Option String × Tree) → Except ReadError (List (String × Value))
  | [] => .ok read.reverse
  | (some name, t) :: ts =>
    match value depth t with
    | .ok v => memberValues depth ((name, v) :: read) ts
    | .error e => .error e
  | _ :: _ => .error .malformed

end

mutual

/-- The tree is well formed throughout. -/
def isWhole : Tree → Bool
  | .broken => false
  | .array items closed => areWhole items && closed
  | .object members closed => haveWhole members && closed
  | _ => true

/-- The trees are well formed throughout. -/
def areWhole : List Tree → Bool
  | [] => true
  | t :: ts => isWhole t && areWhole ts

/-- The named trees are well formed throughout. -/
def haveWhole : List (Option String × Tree) → Bool
  | [] => true
  | m :: ms => isWhole m.2 && haveWhole ms

end

/-! ## Structures -/

/-- A member of a structure. -/
structure Member where
  /-- Its name. -/
  name : String
  /-- It may not be left out of an object. -/
  required : Bool
  /-- An array may not end before it. -/
  placed : Bool
  /-- What its value must satisfy. -/
  check : Reader Unit

/-- The trees of the members of a structure in the order of their declaration;
none for one that is left out. -/
abbrev Cells := List (Option Tree)

/-- A member that must be there. -/
def Member.must {α : Type} (name : String) (r : Reader α) : Member :=
  ⟨name, true, true, fun depth t => (r depth t).map fun _ => ()⟩

/-- A member that may be left out or null. -/
def Member.may {α : Type} (name : String) (r : Reader α) : Member :=
  ⟨name, false, false, fun depth t => (maybe r depth t).map fun _ => ()⟩

/-- A member that may be left out or null, although an array may not end before
it. -/
def Member.nullable {α : Type} (name : String) (r : Reader α) : Member :=
  { Member.may name r with placed := true }

/-- A value that nobody asks for and nobody keeps. -/
def skipped : Reader Unit := fun _ t => if isWhole t then .ok () else .error .malformed

/-- A value that is kept for a later reader. -/
def kept : Reader Unit := fun depth t => (value depth t).map fun _ => ()

/-- Look at the named parts of an object in turn, taking those that are no
members with another reader. -/
def readMembers (depth : Nat) (others : Reader Unit) (ms : List Member) (cells : Cells) :
    List (Option String × Tree) → Except ReadError Cells
  | [] => .ok cells
  | (some name, t) :: rest =>
    match ms.findIdx? (·.name == name) with
    | none =>
      match others depth t with
      | .ok _ => readMembers depth others ms cells rest
      | .error e => .error e
    | some i =>
      match cells[i]?, ms[i]? with
      | some none, some m =>
        match m.check depth t with
        | .ok _ => readMembers depth others ms (cells.set i (some t)) rest
        | .error e => .error (e.within (.member name))
      | _, _ => .error (.mismatch [] (.duplicate name))
  | _ :: _ => .error .malformed

/-- No member that must be there is left out. -/
def demandMembers : List Member → Cells → Except ReadError Unit
  | m :: ms, cell :: cells =>
    if m.required && cell.isNone then .error (.mismatch [] (.missing m.name))
    else demandMembers ms cells
  | _, _ => .ok ()

/-- Look at the parts of an array in turn, from the index on. -/
def readItems (depth : Nat) (wanted : String) (closed : Bool) (index : Nat) :
    List Member → List Tree → Except ReadError Cells
  | [], [] => if closed then .ok [] else .error .malformed
  | [], _ :: _ => .error .malformed
  | m :: ms, [] =>
    if ¬closed then .error .malformed
    else if m.placed then .error (.mismatch [] (.wrongLength index wanted))
    else (readItems depth wanted closed (index + 1) ms []).map (none :: ·)
  | m :: ms, t :: ts =>
    match m.check depth t with
    | .ok _ => (readItems depth wanted closed (index + 1) ms ts).map (some t :: ·)
    | .error e => .error (e.within (.item index))

/-- The parts of a structure with the given name. -/
def struct (name : String) (ms : List Member) : Reader Cells
  | depth, .object members closed => do
    if maxDepth ≤ depth then throw .malformed
    let cells ← readMembers (depth + 1) skipped ms (ms.map fun _ => none) members
    if ¬closed then throw .malformed
    demandMembers ms cells
    return cells
  | depth, .array items closed => do
    if maxDepth ≤ depth then throw .malformed
    let count := ms.length
    let wanted := "struct " ++ name ++ " with " ++ Nat.repr count ++
      (if count = 1 then " element" else " elements")
    readItems (depth + 1) wanted closed 0 ms items
  | _, t => refuse ("struct " ++ name) t

/-- The value of a part that must be there. -/
def Reader.must {α : Type} (r : Reader α) (depth : Nat) : Option Tree → Except ReadError α
  | some t => r depth t
  | none => .error .malformed

/-- The value of a part that may be left out or null. -/
def Reader.may {α : Type} (r : Reader α) (depth : Nat) :
    Option Tree → Except ReadError (Option α)
  | some t => maybe r depth t
  | none => .ok none

/-! ## Documents -/

/-- The value of a whole document, after which nothing may follow. -/
def Reader.fromDocument {α : Type} (r : Reader α) (d : Document) : Except ReadError α := do
  let a ← r 0 d.root
  if d.alone then return a else throw .malformed

/-- The value of a document given as text. -/
def Reader.fromText {α : Type} (r : Reader α) (s : String) : Except ReadError α :=
  r.fromDocument (.ofText s)

/-- The value of a document given as bytes. -/
def Reader.fromBytes {α : Type} (r : Reader α) (bs : Bytes) : Except ReadError α :=
  r.fromDocument (.ofBytes bs)

end Enrolment.Json
