import Enrolment.Text.Blank
import Enrolment.Time.Moment

/-!
# Reading moments

A moment is read leniently (RFC 3339 with liberties): blank characters may stand
between the parts, numbers may lack their leading zeros, a year with a sign may
have any number of digits, and the day and the time are separated by a `T` of
either case or a space.  The zone is `Z`, `UTC` or a signed offset whose hours
and minutes any number of colons and blank characters may separate.

The text is read from left to right, and the first fault decides; whether the
day exists in its month is found out last.

## Main definitions

* `MomentError` — the faults, and `message` for their wording.
* `Moment.read` — the moment that a text writes.
-/

namespace Enrolment

/-- What is wrong with a text that should be a moment. -/
inductive MomentError
  /-- The text ends where more is needed. -/
  | tooShort
  /-- Another character stands where one is needed. -/
  | invalid
  /-- A number lies outside its range. -/
  | outOfRange
  /-- Something follows the zone. -/
  | tooLong
  /-- The calendar does not reach so far once the zone is taken off. -/
  | impossible
  deriving DecidableEq, Repr

/-- The wording of the error. -/
def MomentError.message : MomentError → String
  | .tooShort => "premature end of input"
  | .invalid => "input contains invalid characters"
  | .outOfRange => "input is out of range"
  | .tooLong => "trailing input"
  | .impossible => "no possible date and time matching input"

namespace Moment

/-- The digits at the front of a text, at most `most` of them. -/
def digitsOf (most : Option Nat) (cs : List Char) : List Char :=
  let ds := cs.takeWhile Char.isDigit
  match most with
  | none => ds
  | some n => ds.take n

/-- More than any part of a moment may be. -/
def tooMuch : Nat := 4294967296

/-- The number that digits write; whatever is too much counts as `tooMuch`. -/
def numberOf (ds : List Char) : Nat :=
  ds.foldl (fun n d => min (n * 10 + (d.toNat - 48)) tooMuch) 0

/-- A number of at least one digit, and what follows it. -/
def readNumber (most : Option Nat) (cs : List Char) : Except MomentError (Nat × List Char) :=
  match cs, digitsOf most cs with
  | [], _ => .error .tooShort
  | _, [] => .error .invalid
  | cs, ds => .ok (numberOf ds, cs.drop ds.length)

/-- A number of one or two digits between the bounds, after blank characters. -/
def readField (low high : Nat) (cs : List Char) : Except MomentError (Nat × List Char) := do
  let (n, rest) ← readNumber (some 2) (Text.trimStart cs)
  if low ≤ n ∧ n ≤ high then return (n, rest) else throw .outOfRange

/-- A year that a machine word of 32 bits holds, after blank characters. -/
def readYear (cs : List Char) : Except MomentError (Int × List Char) := do
  let (year, rest) ← match Text.trimStart cs with
    | '-' :: cs => do
      let (n, rest) ← readNumber none cs
      pure (-(n : Int), rest)
    | '+' :: cs => do
      let (n, rest) ← readNumber none cs
      pure ((n : Int), rest)
    | cs => do
      let (n, rest) ← readNumber (some 4) cs
      pure ((n : Int), rest)
  if -2147483648 ≤ year ∧ year ≤ 2147483647 then return (year, rest) else throw .outOfRange

/-- A sign between the parts, after blank characters. -/
def readMark (mark : Char) (cs : List Char) : Except MomentError (List Char) :=
  match Text.trimStart cs with
  | [] => .error .tooShort
  | c :: rest => if c = mark then .ok rest else .error .invalid

/-- What stands between the day and the time. -/
def readDivider : List Char → Except MomentError (List Char)
  | [] => .error .tooShort
  | c :: rest => if c = 'T' ∨ c = 't' ∨ c = ' ' then .ok rest else .error .invalid

/-- The nanoseconds after the second: none, or a point and digits, of which the
first nine count. -/
def readFraction : List Char → Except MomentError (Nat × List Char)
  | '.' :: cs => do
    let (n, _) ← readNumber (some 9) cs
    let digits := (digitsOf (some 9) cs).length
    return (n * Nat.pow 10 (9 - digits), cs.dropWhile Char.isDigit)
  | cs => .ok (0, cs)

/-- Two characters that are a single byte each. -/
def readPair : List Char → Except MomentError (Char × Char × List Char)
  | [] => .error .tooShort
  | [c] => if c.utf8Size < 2 then .error .tooShort else .error .invalid
  | c :: d :: rest => .ok (c, d, rest)

/-- Hours and minutes of an offset, in minutes. -/
def readOffset (cs : List Char) : Except MomentError (Nat × List Char) := do
  let (a, b, rest) ← readPair cs
  let hours ← if a.isDigit ∧ b.isDigit then pure (numberOf [a, b]) else throw .invalid
  let (c, d, rest) ← readPair (rest.dropWhile fun c => c = ':' || Text.isBlank c)
  if c.isDigit ∧ d.isDigit then
    if c.toNat < 54 then return (hours * 60 + numberOf [c, d], rest) else throw .outOfRange
  else throw .invalid

/-- The zone, as the minutes by which it is ahead of UTC. -/
def readZone (cs : List Char) : Except MomentError (Int × List Char) :=
  match cs with
  | [] => .error .tooShort
  | c :: rest =>
    if (cs.take 3).map Char.toLower = ['u', 't', 'c'] then .ok (0, cs.drop 3)
    else if c = 'Z' ∨ c = 'z' then .ok (0, rest)
    else if c = '+' then (readOffset rest).map fun (n, rest) => ((n : Int), rest)
    else if c = '-' ∨ c = '\u2212' then (readOffset rest).map fun (n, rest) => (-(n : Int), rest)
    else .error .invalid

/-- The local time that the fields make; the second may be the sixtieth. -/
def ofFields? (year : Int) (month day hour minute second nanos : Nat) : Option Moment := do
  let date ← Date.of? year month day
  let leaps := second / 60
  if h : hour < 24 ∧ minute < 60 ∧ second ≤ 60 ∧ nanos < 1000000000 then
    some {
      date := date
      hour := hour
      minute := minute
      second := second - leaps
      nanos := nanos + 1000000000 * leaps
      second_lt := by omega
      nanos_lt := by omega
      leap := by omega }
  else none

/-- The moment that the characters write. -/
def readChars (cs : List Char) : Except MomentError Moment := do
  let (year, cs) ← readYear cs
  let cs ← readMark '-' cs
  let (month, cs) ← readField 1 12 cs
  let cs ← readMark '-' cs
  let (day, cs) ← readField 1 31 cs
  let cs ← readDivider cs
  let (hour, cs) ← readField 0 23 cs
  let cs ← readMark ':' cs
  let (minute, cs) ← readField 0 59 cs
  let cs ← readMark ':' cs
  let (second, cs) ← readField 0 60 cs
  let (nanos, cs) ← readFraction cs
  let (offset, cs) ← readZone (Text.trimStart cs)
  if Text.trimStart cs ≠ [] then throw .tooLong
  match ofFields? year month day hour minute second nanos with
  | none => throw .outOfRange
  | some there =>
    if 1440 ≤ offset.natAbs then throw .outOfRange
    match there.shift? (-offset) with
    | none => throw .impossible
    | some here => return here

/-- The moment that a text writes. -/
def read (s : String) : Except MomentError Moment := readChars s.toList

end Moment

end Enrolment
