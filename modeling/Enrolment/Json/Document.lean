import Enrolment.Json.Token

/-!
# Documents as they stand

The tokens of a document form a tree, also when the document is broken off or
goes wrong somewhere: a container then knows that it was not closed, and
`broken` stands where a value should be.  A reader that walks the tree in the
order of the document meets the fault exactly where it lies, after everything
that stands before it.

The tree is built by a machine with a stack of open containers, one token at a
time.

## Main definitions

* `Tree` — the tree of a document.
* `Builder`, `Builder.step` — the machine and its moves.
* `Document`, `Document.ofTokens` — the tree and whether anything follows it.
-/

namespace Enrolment.Json

/-- A document as it stands. -/
inductive Tree
  /-- No value where one should be. -/
  | broken
  /-- The null value. -/
  | null
  /-- A truth value. -/
  | bool (b : Bool)
  /-- A number. -/
  | numeral (n : Numeral)
  /-- A text; `none` if its characters cannot be told. -/
  | text (s : Option String)
  /-- Values in a row, and whether the row was closed properly. -/
  | array (items : List Tree) (closed : Bool)
  /-- Values with their names, and whether the object was closed properly; `none`
  is a name whose characters cannot be told. -/
  | object (members : List (Option String × Tree)) (closed : Bool)

/-- A container that is still open; its parts are held with the last one
first. -/
inductive Frame
  /-- An array. -/
  | array (items : List Tree)
  /-- An object. -/
  | object (members : List (Option String × Tree))
  /-- An object that awaits the value of a name. -/
  | named (members : List (Option String × Tree)) (name : Option String)

/-- What may come next. -/
inductive Want
  /-- A value. -/
  | value
  /-- A value, or the end of the array that was just opened. -/
  | firstItem
  /-- A comma or the end of the container. -/
  | next
  /-- A name, or the end of the object that was just opened. -/
  | firstName
  /-- A name. -/
  | name
  /-- The colon after a name. -/
  | colon
  /-- Nothing: the tree is complete. -/
  | nothing
  deriving DecidableEq, Repr

/-- The machine. -/
structure Builder where
  /-- The open containers, the innermost one first. -/
  stack : List Frame
  /-- What may come next. -/
  want : Want
  /-- The complete tree. -/
  root : Tree
  /-- No token has been out of place. -/
  sound : Bool

/-- A tree and whether nothing but white space follows it. -/
structure Document where
  /-- The tree. -/
  root : Tree
  /-- Nothing follows the tree. -/
  alone : Bool

namespace Builder

/-- Before the first token. -/
def start : Builder := ⟨[], .value, .broken, true⟩

/-- Put a complete value where it belongs. -/
def put (b : Builder) (t : Tree) : Builder :=
  match b.stack with
  | [] => { b with want := .nothing, root := t }
  | .array items :: outer => { b with stack := .array (t :: items) :: outer, want := .next }
  | .named members name :: outer =>
    { b with stack := .object ((name, t) :: members) :: outer, want := .next }
  | .object _ :: _ => { b with sound := false }

/-- Open a container. -/
def push (b : Builder) (f : Frame) (w : Want) : Builder :=
  { b with stack := f :: b.stack, want := w }

/-- Close the innermost container, which is an array. -/
def closeArray (b : Builder) : Builder :=
  match b.stack with
  | .array items :: outer => { b with stack := outer }.put (.array items.reverse true)
  | _ => { b with sound := false }

/-- Close the innermost container, which is an object. -/
def closeObject (b : Builder) : Builder :=
  match b.stack with
  | .object members :: outer => { b with stack := outer }.put (.object members.reverse true)
  | _ => { b with sound := false }

/-- A token that begins a value. -/
def value (b : Builder) : Token → Builder
  | .null => b.put .null
  | .bool v => b.put (.bool v)
  | .numeral n => b.put (.numeral n)
  | .text s => b.put (.text s)
  | .openArray => b.push (.array []) .firstItem
  | .openObject => b.push (.object []) .firstName
  | _ => { b with sound := false }

/-- A token in the place of a name. -/
def name (b : Builder) (t : Token) : Builder :=
  match b.stack, t with
  | .object members :: outer, .text s =>
    { b with stack := .named members s :: outer, want := .colon }
  | _, _ => { b with sound := false }

/-- A token after an item or a member. -/
def next (b : Builder) : Token → Builder
  | .comma =>
    match b.stack with
    | .array _ :: _ => { b with want := .value }
    | .object _ :: _ => { b with want := .name }
    | _ => { b with sound := false }
  | .closeArray => b.closeArray
  | .closeObject => b.closeObject
  | _ => { b with sound := false }

/-- Read a token; after one out of place the rest is passed over. -/
def step (b : Builder) (t : Token) : Builder :=
  if b.sound then
    match b.want, t with
    | .firstItem, .closeArray => b.closeArray
    | .firstItem, t | .value, t => b.value t
    | .next, t => b.next t
    | .firstName, .closeObject => b.closeObject
    | .firstName, t | .name, t => b.name t
    | .colon, .colon => { b with want := .value }
    | _, _ => { b with sound := false }
  else b

/-- A container that was not closed. -/
def Frame.abandon (inner : Option Tree) : Frame → Tree
  | .array items => .array ((inner.toList ++ items).reverse) false
  | .object members => .object members.reverse false
  | .named members name => .object ((name, inner.getD .broken) :: members).reverse false

/-- The tree of the open containers, each one inside the next. -/
def abandonAll (inner : Option Tree) : List Frame → Option Tree
  | [] => inner
  | f :: outer => abandonAll (some (Frame.abandon inner f)) outer

/-- The document when no token follows. -/
def finish (b : Builder) : Document :=
  match b.want with
  | .nothing => ⟨b.root, b.sound⟩
  | _ => ⟨(abandonAll none b.stack).getD .broken, false⟩

end Builder

namespace Document

/-- The document that the tokens form. -/
def ofTokens (ts : List Token) : Document := (ts.foldl Builder.step .start).finish

/-- The document that the text spells. -/
def ofText (s : String) : Document := ofTokens (tokens (s.toList.map some))

/-- The document that the bytes spell. -/
def ofBytes (bs : Bytes) : Document := ofTokens (tokens (Text.decode bs))

end Document

end Enrolment.Json
