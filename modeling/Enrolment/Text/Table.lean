import Enrolment.Text.Hex
import Enrolment.Text.Split

/-!
# Properties of characters

A property that a standard gives to characters is written down by the places at
which it changes: each row of a table holds for the characters from its start up
to the start of the next row.  The row of a character is found by halving.

## Main definitions

* `countUpTo`, `countOf` — how many of some ascending numbers do not pass a bound.
* `Table`, `Table.row?` — the rows of a property, and the row of a character.
* `Table.ofLines` — a table from words such as `1f:x`, the start of a row and
  what stands for its value.

## Main statements

* `countUpTo_le` — the count stays within the range that it is looked for in.
-/

namespace Enrolment.Text

/-- The number of places up to `n`, where `low` of them are known to be and those
from `high` on are known not to be; found by so many halvings. -/
def countUpTo (starts : Array Nat) (n : Nat) : (halvings low high : Nat) → Nat
  | 0, low, _ => low
  | halvings + 1, low, high =>
    if low < high then
      let mid := (low + high) / 2
      if starts.getD mid 0 ≤ n then countUpTo starts n halvings (mid + 1) high
      else countUpTo starts n halvings low mid
    else low

/-- The count stays within the range. -/
theorem countUpTo_le (starts : Array Nat) (n halvings : Nat) {low high : Nat} (h : low ≤ high) :
    countUpTo starts n halvings low high ≤ high := by
  induction halvings generalizing low high with
  | zero => exact h
  | succ halvings ih =>
    rw [countUpTo]
    split
    · dsimp only
      split
      · exact ih (by omega)
      · exact Nat.le_trans (ih (by omega)) (by omega)
    · exact h

/-- The number of places up to `n`; no table has as many as 20 halvings can tell
apart. -/
def countOf (starts : Array Nat) (n : Nat) : Nat := countUpTo starts n 20 0 starts.size

/-- A property by the places at which it changes. -/
structure Table (α : Type) where
  /-- The places, in ascending order. -/
  starts : Array Nat
  /-- The values from each place on. -/
  values : Array α

/-- The start of the row that a character lies in, and the value of the row. -/
def Table.row? {α : Type} (t : Table α) (c : Char) : Option (Nat × α) :=
  match countOf t.starts c.toNat with
  | 0 => none
  | i + 1 => do return (← t.starts[i]?, ← t.values[i]?)

/-- The value at a character. -/
def Table.value? {α : Type} (t : Table α) (c : Char) : Option α := (t.row? c).map (·.2)

/-- A row from a word: its start in hexadecimal digits, and its value after a
colon. -/
def readRow? {α : Type} (value? : List Char → Option α) (word : List Char) :
    Option (Nat × α) := do
  let (start, code) ← cutAt ':' word
  return (← readHex? start, ← value? code)

/-- The table of the rows that the words of some lines write. -/
def Table.ofLines {α : Type} (value? : List Char → Option α) (lines : List String) : Table α :=
  let rows := (lines.flatMap fun line => fields ' ' line.toList).filterMap (readRow? value?)
  ⟨(rows.map (·.1)).toArray, (rows.map (·.2)).toArray⟩

end Enrolment.Text
