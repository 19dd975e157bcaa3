import Enrolment.Json.Number
import Enrolment.Text.Hex

/-!
# Tokens of a document

A document is read one character at a time by a machine that cuts it into
tokens.  The machine never fails: where the characters form no token it puts the
token `bad` and passes over the rest, so that a reader notices the fault only
when it gets there.

The characters come as `Text.decode` gives them: a spot that is no text makes a
text that it lies in unreadable, and is a `bad` token elsewhere.  The same holds
of half of a surrogate pair that stands alone as an escape.

## Main definitions

* `Token` — the tokens.
* `Lexer`, `Lexer.step` — the machine and its moves.
* `tokens` — the tokens of a document.
-/

namespace Enrolment.Json

/-- A token of a document. -/
inductive Token
  /-- `[`. -/
  | openArray
  /-- `]`. -/
  | closeArray
  /-- An opening brace. -/
  | openObject
  /-- A closing brace. -/
  | closeObject
  /-- `:`. -/
  | colon
  /-- `,`. -/
  | comma
  /-- The word `null`. -/
  | null
  /-- The word `true` or `false`. -/
  | bool (b : Bool)
  /-- A number. -/
  | numeral (n : Numeral)
  /-- A text; `none` if its characters cannot be told. -/
  | text (s : Option String)
  /-- Characters that form no token. -/
  | bad
  deriving DecidableEq, Repr

/-- The part of a number that is being read. -/
inductive NumeralPart
  /-- A digit must follow the minus sign. -/
  | sign
  /-- The whole part is a zero, and no digit may follow it. -/
  | zero
  /-- Further digits of the whole part. -/
  | whole
  /-- A digit must follow the point. -/
  | point
  /-- Further digits of the fraction. -/
  | fraction
  /-- A sign or a digit must follow the exponent mark. -/
  | mark
  /-- A digit must follow the sign of the exponent. -/
  | markSign
  /-- Further digits of the exponent. -/
  | exponent
  deriving DecidableEq, Repr

/-- The part is one in which a number may end. -/
def NumeralPart.mayEnd : NumeralPart → Bool
  | .zero | .whole | .fraction | .exponent => true
  | .sign | .point | .mark | .markSign => false

/-- A text as far as it has been read. -/
structure Partial where
  /-- The characters, the last of them first. -/
  read : List Char
  /-- The text has been text so far. -/
  clear : Bool
  /-- The first half of a surrogate pair, which awaits the second. -/
  half : Option Nat
  deriving DecidableEq, Repr

/-- What the machine is in the middle of. -/
inductive Mode
  /-- Nothing. -/
  | between
  /-- A word, with the characters that must follow. -/
  | word (rest : List Char) (token : Token)
  /-- A number; its digits are held with the last one first. -/
  | numeral (n : Numeral) (part : NumeralPart)
  /-- A text. -/
  | text (s : Partial)
  /-- A text, after a backslash. -/
  | escape (s : Partial)
  /-- A text, in an escape of four hexadecimal digits. -/
  | hex (s : Partial) (digits : Nat) (value : Nat)
  /-- Characters that formed no token have been met. -/
  | lost
  deriving DecidableEq, Repr

/-- The machine: its mode and the tokens so far, the last of them first. -/
structure Lexer where
  /-- What it is in the middle of. -/
  mode : Mode
  /-- The tokens so far. -/
  read : List Token
  deriving DecidableEq, Repr

namespace Partial

/-- An empty text. -/
def empty : Partial := ⟨[], true, none⟩

/-- Append a character, before which a lone half makes the text unclear. -/
def push (s : Partial) (c : Char) : Partial := ⟨c :: s.read, s.clear && s.half.isNone, none⟩

/-- The text has a spot that is no text. -/
def blur (s : Partial) : Partial := ⟨s.read, false, none⟩

/-- Append the UTF-16 unit of an escape. -/
def pushUnit (s : Partial) (unit : Nat) : Partial :=
  match s.half with
  | none =>
    if 0xd800 ≤ unit ∧ unit ≤ 0xdbff then { s with half := some unit }
    else if 0xdc00 ≤ unit ∧ unit ≤ 0xdfff then s.blur
    else s.push (Char.ofNat unit)
  | some high =>
    if 0xdc00 ≤ unit ∧ unit ≤ 0xdfff then
      ⟨Char.ofNat (0x10000 + (high - 0xd800) * 0x400 + (unit - 0xdc00)) :: s.read, s.clear, none⟩
    else s.blur

/-- The token of the whole text. -/
def token (s : Partial) : Token :=
  .text (if s.clear ∧ s.half = none then some (String.ofList s.read.reverse) else none)

end Partial

namespace Lexer

/-- Before the first character. -/
def start : Lexer := ⟨.between, []⟩

/-- Put a token and be between tokens. -/
def put (l : Lexer) (t : Token) : Lexer := ⟨.between, t :: l.read⟩

/-- Give up. -/
def lose (l : Lexer) : Lexer := ⟨.lost, .bad :: l.read⟩

/-- Turn to another mode. -/
def turn (l : Lexer) (m : Mode) : Lexer := { l with mode := m }

/-- A number with its digits put in order. -/
def ordered (n : Numeral) : Numeral :=
  { n with
    whole := n.whole.reverse
    fraction := n.fraction.reverse
    exponent := n.exponent.map fun (negative, ds) => (negative, ds.reverse) }

/-- The number without any digits. -/
def noDigits (negative : Bool) : Numeral := ⟨negative, [], [], none⟩

/-- A character between tokens. -/
def begin (l : Lexer) (c : Char) : Lexer :=
  match c with
  | ' ' | '\t' | '\n' | '\r' => l.turn .between
  | '[' => l.put .openArray
  | ']' => l.put .closeArray
  | '{' => l.put .openObject
  | '}' => l.put .closeObject
  | ':' => l.put .colon
  | ',' => l.put .comma
  | '"' => l.turn (.text .empty)
  | 'n' => l.turn (.word ['u', 'l', 'l'] .null)
  | 't' => l.turn (.word ['r', 'u', 'e'] (.bool true))
  | 'f' => l.turn (.word ['a', 'l', 's', 'e'] (.bool false))
  | '-' => l.turn (.numeral (noDigits true) .sign)
  | '0' => l.turn (.numeral { noDigits false with whole := [0] } .zero)
  | c =>
    match Text.digitValue? c with
    | some d => l.turn (.numeral { noDigits false with whole := [d] } .whole)
    | none => l.lose

/-- A character that is none of the number before it. -/
def endNumeral (l : Lexer) (n : Numeral) (part : NumeralPart) (c : Char) : Lexer :=
  if part.mayEnd then begin (l.put (.numeral (ordered n))) c else l.lose

/-- A character of a number. -/
def numeral (l : Lexer) (n : Numeral) (part : NumeralPart) (c : Char) : Lexer :=
  let more := fun (n : Numeral) (part : NumeralPart) => l.turn (.numeral n part)
  let withWhole := fun d => { n with whole := d :: n.whole }
  let withFraction := fun d => { n with fraction := d :: n.fraction }
  let withExponent := fun d =>
    { n with exponent := n.exponent.map fun (negative, ds) => (negative, d :: ds) }
  match part, c, Text.digitValue? c with
  | .sign, '0', _ => more (withWhole 0) .zero
  | .sign, _, some d => more (withWhole d) .whole
  | .zero, _, some _ => l.lose
  | .zero, '.', _ | .whole, '.', _ => more n .point
  | .whole, _, some d => more (withWhole d) .whole
  | .point, _, some d | .fraction, _, some d => more (withFraction d) .fraction
  | .zero, 'e', _ | .zero, 'E', _ | .whole, 'e', _ | .whole, 'E', _ | .fraction, 'e', _
  | .fraction, 'E', _ => more { n with exponent := some (false, []) } .mark
  | .mark, '+', _ => more n .markSign
  | .mark, '-', _ => more { n with exponent := some (true, []) } .markSign
  | .mark, _, some d | .markSign, _, some d | .exponent, _, some d =>
    more (withExponent d) .exponent
  | _, _, _ => l.endNumeral n part c

/-- A character after a backslash. -/
def escaped (l : Lexer) (s : Partial) (c : Char) : Lexer :=
  match c with
  | '"' | '\\' | '/' => l.turn (.text (s.push c))
  | 'b' => l.turn (.text (s.push (Char.ofNat 8)))
  | 'f' => l.turn (.text (s.push (Char.ofNat 12)))
  | 'n' => l.turn (.text (s.push '\n'))
  | 'r' => l.turn (.text (s.push '\r'))
  | 't' => l.turn (.text (s.push '\t'))
  | 'u' => l.turn (.hex s 0 0)
  | _ => l.lose

/-- Read a character. -/
def step (l : Lexer) (c : Option Char) : Lexer :=
  match l.mode, c with
  | .lost, _ => l
  | .between, some c => l.begin c
  | .word (r :: rest) t, some c =>
    if c = r then (match rest with | [] => l.put t | _ => l.turn (.word rest t)) else l.lose
  | .numeral n part, some c => l.numeral n part c
  | .numeral n part, none =>
    if part.mayEnd then (l.put (.numeral (ordered n))).lose else l.lose
  | .text s, some c =>
    if c = '"' then l.put s.token
    else if c = '\\' then l.turn (.escape s)
    else if c.toNat < 32 then l.lose
    else l.turn (.text (s.push c))
  | .text s, none => l.turn (.text s.blur)
  | .escape s, some c => l.escaped s c
  | .hex s k v, some c =>
    match Text.hexValue? c with
    | some d =>
      if k = 3 then l.turn (.text (s.pushUnit (v * 16 + d)))
      else l.turn (.hex s (k + 1) (v * 16 + d))
    | none => l.lose
  | _, _ => l.lose

/-- The tokens when nothing follows. -/
def finish (l : Lexer) : List Token :=
  match l.mode with
  | .between | .lost => l.read.reverse
  | .numeral n part => (if part.mayEnd then l.put (.numeral (ordered n)) else l.lose).read.reverse
  | _ => l.lose.read.reverse

end Lexer

/-- The tokens of a document. -/
def tokens (cs : List (Option Char)) : List Token := (cs.foldl Lexer.step .start).finish

end Enrolment.Json
