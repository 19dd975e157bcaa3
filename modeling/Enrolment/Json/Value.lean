import Enrolment.Json.Number
import Enrolment.Text.Hex

/-!
# Values of a document

A value is what a JSON document stands for, and `write` is its one written form:
no white space, members in the order in which the object holds them, and escapes
for quotes, backslashes and control characters only.

A reader keeps the members of an object in ascending order of their names, one
member a name (`Sorted`), so that objects that differ in the order of their
members are one value.  A structure written by this library keeps the order of
its declaration instead.

## Main definitions

* `Value` — null, booleans, numbers, texts, arrays and objects.
* `Value.Sorted` — every object is in the order of its names.
* `Value.same` — equality of values.
* `Value.insertMember`, `Value.objectOf` — an object from members read in turn,
  the last one of a name winning.
* `Value.write` — the written form.
-/

namespace Enrolment.Json

/-- What a document stands for. -/
inductive Value
  /-- The null value. -/
  | null
  /-- A truth value. -/
  | bool (b : Bool)
  /-- A number. -/
  | number (n : Number)
  /-- A text. -/
  | text (s : String)
  /-- Values in a row. -/
  | array (items : List Value)
  /-- Named values. -/
  | object (members : List (String × Value))

namespace Value

/-! ## Reading an object -/

/-- Put a member among members in ascending order; one of the same name gives
way. -/
def insertMember (name : String) (value : Value) :
    List (String × Value) → List (String × Value)
  | [] => [(name, value)]
  | (other, v) :: rest =>
    if name < other then (name, value) :: (other, v) :: rest
    else if name = other then (name, value) :: rest
    else (other, v) :: insertMember name value rest

/-- The object of members read in turn. -/
def objectOf (members : List (String × Value)) : Value :=
  .object (members.foldl (fun ms m => insertMember m.1 m.2 ms) [])

/-- The member of an object with the name. -/
def member? (name : String) : Value → Option Value
  | .object members => members.lookup name
  | _ => none

/-- The text that the value is, if it is one. -/
def asText? : Value → Option String
  | .text s => some s
  | _ => none

mutual

/-- The members of every object stand in strictly ascending order of names. -/
def Sorted : Value → Prop
  | .array items => SortedItems items
  | .object members => (members.map Prod.fst).Pairwise (· < ·) ∧ SortedMembers members
  | _ => True

/-- Every item is sorted. -/
def SortedItems : List Value → Prop
  | [] => True
  | v :: vs => v.Sorted ∧ SortedItems vs

/-- The value of every member is sorted. -/
def SortedMembers : List (String × Value) → Prop
  | [] => True
  | m :: ms => m.2.Sorted ∧ SortedMembers ms

end

/-! ## Equality -/

mutual

/-- The two values are equal; numbers are compared as numbers. -/
def same : Value → Value → Bool
  | .null, .null => true
  | .bool a, .bool b => a == b
  | .number m, .number n => m.same n
  | .text s, .text t => s == t
  | .array xs, .array ys => sameItems xs ys
  | .object ms, .object ns => sameMembers ms ns
  | _, _ => false

/-- The two rows hold equal values in turn. -/
def sameItems : List Value → List Value → Bool
  | [], [] => true
  | x :: xs, y :: ys => x.same y && sameItems xs ys
  | _, _ => false

/-- The two rows hold equal members in turn. -/
def sameMembers : List (String × Value) → List (String × Value) → Bool
  | [], [] => true
  | m :: ms, n :: ns => m.1 == n.1 && m.2.same n.2 && sameMembers ms ns
  | _, _ => false

end

mutual

@[simp] theorem same_self : (v : Value) → v.same v = true
  | .null => by simp [same]
  | .bool b => by simp [same]
  | .number n => by simp [same]
  | .text s => by simp [same]
  | .array items => by simp [same, sameItems_self items]
  | .object members => by simp [same, sameMembers_self members]

theorem sameItems_self : (items : List Value) → sameItems items items = true
  | [] => by simp [sameItems]
  | v :: vs => by simp [sameItems, same_self v, sameItems_self vs]

theorem sameMembers_self : (members : List (String × Value)) → sameMembers members members = true
  | [] => by simp [sameMembers]
  | m :: ms => by simp [sameMembers, same_self m.2, sameMembers_self ms]

end

/-! ## Writing -/

/-- A control character as four hexadecimal digits. -/
def unicodeEscape (n : Nat) : List Char :=
  ['\\', 'u', '0', '0', Text.hexDigit (n / 16), Text.hexDigit (n % 16)]

/-- A character inside a text. -/
def escape (c : Char) : List Char :=
  if c = '"' then ['\\', '"']
  else if c = '\\' then ['\\', '\\']
  else if c.toNat = 8 then ['\\', 'b']
  else if c.toNat = 12 then ['\\', 'f']
  else if c = '\n' then ['\\', 'n']
  else if c = '\r' then ['\\', 'r']
  else if c = '\t' then ['\\', 't']
  else if c.toNat < 32 then unicodeEscape c.toNat
  else [c]

/-- A text between its quotes. -/
def quote (s : String) : List Char := '"' :: (s.toList.flatMap escape ++ ['"'])

mutual

/-- The characters of a value. -/
def chars : Value → List Char
  | .null => ['n', 'u', 'l', 'l']
  | .bool true => ['t', 'r', 'u', 'e']
  | .bool false => ['f', 'a', 'l', 's', 'e']
  | .number n => n.text
  | .text s => quote s
  | .array [] => ['[', ']']
  | .array (v :: vs) => '[' :: (v.chars ++ itemChars vs ++ [']'])
  | .object [] => ['{', '}']
  | .object (m :: ms) => '{' :: (quote m.1 ++ ':' :: m.2.chars ++ memberChars ms ++ ['}'])

/-- Further items, each after its comma. -/
def itemChars : List Value → List Char
  | [] => []
  | v :: vs => ',' :: (v.chars ++ itemChars vs)

/-- Further members, each after its comma. -/
def memberChars : List (String × Value) → List Char
  | [] => []
  | m :: ms => ',' :: (quote m.1 ++ ':' :: m.2.chars ++ memberChars ms)

end

/-- The written form of a value. -/
def write (v : Value) : String := String.ofList v.chars

/-! ## Building -/

/-- A natural number as a value. -/
def nat (n : Nat) : Value := .number (.natural (UInt64.ofNat n))

/-- An optional member: left out if there is no value. -/
def optional (name : String) : Option Value → List (String × Value)
  | none => []
  | some v => [(name, v)]

end Value

end Enrolment.Json
