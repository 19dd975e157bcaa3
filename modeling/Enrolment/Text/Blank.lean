/-!
# Blank characters

Text that a person typed or a peer sent may be padded.  A character is *blank*
when it has the Unicode property `White_Space`; a text is blank when all of its
characters are, and trimming removes the blank characters at both ends and no
other.

The property is wider than ASCII white space (`isBlank_of_isWhitespace`) and
narrower than "looks empty": the zero-width space and the byte order mark are
not blank.

## Main definitions

* `isBlank` — the property of a character.
* `trim`, `trimStart`, `trimEnd` — cutting blank ends off a list of characters.
* `allBlank`, `trimmed` — the same on texts.
-/

namespace Enrolment.Text

/-- The character has the Unicode property `White_Space`. -/
def isBlank (c : Char) : Bool :=
  let n := c.toNat
  (0x9 ≤ n && n ≤ 0xd) || n == 0x20 || n == 0x85 || n == 0xa0 || n == 0x1680 ||
    (0x2000 ≤ n && n ≤ 0x200a) || n == 0x2028 || n == 0x2029 || n == 0x202f ||
    n == 0x205f || n == 0x3000

/-- Every ASCII white space character is blank. -/
theorem isBlank_of_isWhitespace {c : Char} (h : c.isWhitespace = true) : isBlank c = true := by
  simp only [Char.isWhitespace, Bool.or_eq_true, decide_eq_true_eq] at h
  rcases h with ((rfl | rfl) | rfl) | rfl <;> decide

/-- Cut the blank characters at the front. -/
def trimStart (cs : List Char) : List Char := cs.dropWhile isBlank

/-- Cut the blank characters at the end. -/
def trimEnd (cs : List Char) : List Char := (cs.reverse.dropWhile isBlank).reverse

/-- Cut the blank characters at both ends. -/
def trim (cs : List Char) : List Char := trimEnd (trimStart cs)

/-- The text holds blank characters only; the empty text does. -/
def allBlank (s : String) : Bool := s.toList.all isBlank

/-- The text without the blank characters at its ends. -/
def trimmed (s : String) : String := String.ofList (trim s.toList)

end Enrolment.Text
