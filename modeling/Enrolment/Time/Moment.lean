import Enrolment.Text.Integer

/-!
# Moments

A moment is a date of the Gregorian calendar and a time of day in UTC, to the
nanosecond.  Leap seconds are kept: the sixty-first second of a minute is the
fifty-ninth with a further second of nanoseconds, so that it stands after every
fraction of the fifty-ninth and before the next minute.

The order of moments is the order of their ordinals, which count the fields in
mixed radix.

## Main definitions

* `Date`, `Date.next?`, `Date.previous?` — days and their neighbours.
* `Moment`, `Moment.ordinal`, `Moment.precedes` — moments and their order.
* `Moment.shift?` — the moment some minutes later or earlier.
* `Moment.ofUnix?`, `Moment.unixSeconds` — seconds since the start of 1970.
* `Moment.text`, `Moment.shown` — the written form and the one for messages.
-/

namespace Enrolment

/-- The year has 366 days. -/
def isLeapYear (year : Int) : Bool := year % 4 = 0 && (year % 100 ≠ 0 || year % 400 = 0)

/-- The number of days of a month. -/
def daysInMonth (year : Int) (month : Nat) : Nat :=
  if month = 2 then (if isLeapYear year then 29 else 28)
  else if month = 4 ∨ month = 6 ∨ month = 9 ∨ month = 11 then 30
  else 31

/-- The calendar reaches this far on both sides of year zero. -/
def isYear (year : Int) : Bool := -262143 ≤ year && year ≤ 262142

/-- The day of the month exists. -/
def isDate (year : Int) (month day : Nat) : Bool :=
  isYear year && (1 ≤ month && month ≤ 12) && (1 ≤ day && day ≤ daysInMonth year month)

/-- A day of the calendar. -/
structure Date where
  /-- The year; there is a year zero. -/
  year : Int
  /-- The month, from one. -/
  month : Nat
  /-- The day of the month, from one. -/
  day : Nat
  /-- The day exists. -/
  valid : isDate year month day = true
  deriving DecidableEq

namespace Date

/-- The day with these numbers, if it exists. -/
def of? (year : Int) (month day : Nat) : Option Date :=
  if h : isDate year month day = true then some ⟨year, month, day, h⟩ else none

/-- The day after. -/
def next? (d : Date) : Option Date :=
  (of? d.year d.month (d.day + 1)).orElse fun _ =>
    if d.month = 12 then of? (d.year + 1) 1 1 else of? d.year (d.month + 1) 1

/-- The day before. -/
def previous? (d : Date) : Option Date :=
  if 1 < d.day then of? d.year d.month (d.day - 1)
  else if d.month = 1 then of? (d.year - 1) 12 31
  else of? d.year (d.month - 1) (daysInMonth d.year (d.month - 1))

/-- The number of days since the start of 1970.  Years are counted from March,
in cycles of 400. -/
def daysSinceEpoch (d : Date) : Int :=
  let year := if d.month ≤ 2 then d.year - 1 else d.year
  let cycle := year.fdiv 400
  let yearOfCycle := year - cycle * 400
  let month : Int := if d.month ≤ 2 then d.month + 9 else d.month - 3
  let dayOfYear := (153 * month + 2) / 5 + d.day - 1
  cycle * 146097 + yearOfCycle * 365 + yearOfCycle / 4 - yearOfCycle / 100 + dayOfYear - 719468

/-- The day that lies the given number of days after the start of 1970. -/
def ofDaysSinceEpoch? (days : Int) : Option Date :=
  let z := days + 719468
  let cycle := z.fdiv 146097
  let dayOfCycle := z - cycle * 146097
  let yearOfCycle :=
    (dayOfCycle - dayOfCycle / 1460 + dayOfCycle / 36524 - dayOfCycle / 146096) / 365
  let dayOfYear := dayOfCycle - (365 * yearOfCycle + yearOfCycle / 4 - yearOfCycle / 100)
  let month := (5 * dayOfYear + 2) / 153
  let day := dayOfYear - (153 * month + 2) / 5 + 1
  let year := yearOfCycle + cycle * 400
  if month < 10 then of? year (month + 3).toNat day.toNat
  else of? (year + 1) (month - 9).toNat day.toNat

end Date

/-- A moment in UTC. -/
structure Moment where
  /-- The day. -/
  date : Date
  /-- The hour of the day. -/
  hour : Nat
  /-- The minute of the hour. -/
  minute : Nat
  /-- The second of the minute. -/
  second : Nat
  /-- The nanoseconds; a billion more of them in a leap second. -/
  nanos : Nat
  /-- The hour exists. -/
  hour_lt : hour < 24 := by omega
  /-- The minute exists. -/
  minute_lt : minute < 60 := by omega
  /-- The second exists. -/
  second_lt : second < 60 := by omega
  /-- At most one second is added. -/
  nanos_lt : nanos < 2000000000 := by omega
  /-- A second is added to the last one of a minute only. -/
  leap : 1000000000 ≤ nanos → second = 59 := by omega
  deriving DecidableEq

namespace Moment

/-- The fields of a moment in mixed radix. -/
def ordinal (t : Moment) : Int :=
  (((((t.date.year * 12 + t.date.month) * 31 + t.date.day) * 24 + t.hour) * 60 + t.minute) * 60
    + t.second) * 2000000000 + t.nanos

/-- The first moment lies strictly before the second. -/
def precedes (s t : Moment) : Bool := s.ordinal < t.ordinal

/-- The moment some minutes later, or earlier, by less than a day. -/
def shift? (t : Moment) (minutes : Int) : Option Moment := do
  let total : Int := t.hour * 60 + t.minute + minutes
  let date ← if total < 0 then t.date.previous?
    else if total < 1440 then some t.date else t.date.next?
  let rest := (total % 1440).toNat
  return { t with
    date := date
    hour := rest / 60
    minute := rest % 60
    hour_lt := by omega
    minute_lt := by omega }

/-- The number of whole seconds since the start of 1970. -/
def unixSeconds (t : Moment) : Int :=
  t.date.daysSinceEpoch * 86400 + t.hour * 3600 + t.minute * 60 + t.second

/-- The moment that lies some seconds and nanoseconds after the start of 1970. -/
def ofUnix? (seconds : Int) (nanos : Nat) : Option Moment := do
  let date ← Date.ofDaysSinceEpoch? (seconds.fdiv 86400)
  let rest := (seconds % 86400).toNat
  if h : nanos < 1000000000 ∧ rest < 86400 then
    some {
      date := date
      hour := rest / 3600
      minute := rest / 60 % 60
      second := rest % 60
      nanos := nanos
      hour_lt := by omega
      minute_lt := by omega
      second_lt := by omega }
  else none

/-- The start of 1970. -/
def epoch : Moment :=
  { date := ⟨1970, 1, 1, by decide⟩, hour := 0, minute := 0, second := 0, nanos := 0 }

/-! ## Writing -/

/-- The digits of a number, filled up with zeros to a width. -/
def padded (width n : Nat) : List Char :=
  let ds := Nat.toDigits 10 n
  List.replicate (width - ds.length) '0' ++ ds

/-- A year: four digits, and a sign if it lies outside 0 to 9999. -/
def yearText (year : Int) : List Char :=
  if 0 ≤ year ∧ year ≤ 9999 then padded 4 year.toNat
  else (if year < 0 then '-' else '+') :: padded 4 year.natAbs

/-- The fraction of a second, in three, six or nine digits as few as are exact;
nothing for a whole second. -/
def fractionText (nanos : Nat) : List Char :=
  if nanos = 0 then []
  else if nanos % 1000000 = 0 then '.' :: padded 3 (nanos / 1000000)
  else if nanos % 1000 = 0 then '.' :: padded 6 (nanos / 1000)
  else '.' :: padded 9 nanos

/-- The day. -/
def dateText (d : Date) : List Char :=
  yearText d.year ++ '-' :: padded 2 d.month ++ '-' :: padded 2 d.day

/-- The time of day; a leap second is the sixtieth. -/
def clockText (t : Moment) : List Char :=
  let leaps := t.nanos / 1000000000
  padded 2 t.hour ++ ':' :: padded 2 t.minute ++ ':' :: padded 2 (t.second + leaps) ++
    fractionText (t.nanos % 1000000000)

/-- The written form (RFC 3339). -/
def chars (t : Moment) : List Char := dateText t.date ++ 'T' :: t.clockText ++ ['Z']

/-- The written form (RFC 3339). -/
def text (t : Moment) : String := String.ofList t.chars

/-- The form for messages. -/
def shown (t : Moment) : String :=
  String.ofList (dateText t.date ++ ' ' :: t.clockText) ++ " UTC"

end Moment

end Enrolment
