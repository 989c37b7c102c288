import AuditTrail.Number.Integer
/-!
Days of the Gregorian calendar, carried back to the year 1 and on to the year 9999, and their
numbering from the first day of the year 1.
-/

namespace AuditTrail

/-- A day of the calendar. -/
structure Date where
  /-- The year, from 1 to 9999. -/
  year : Nat
  /-- The month, from 1 to 12. -/
  month : Nat
  /-- The day of the month, from 1. -/
  day : Nat
deriving DecidableEq, Repr, Inhabited

namespace Date

/-- The last year of the calendar. -/
def maxYear : Nat := 9999

/-- A year with a 29th of February. -/
def isLeap (year : Nat) : Bool := year % 4 == 0 && (year % 100 != 0 || year % 400 == 0)

/-- The number of days of a month. -/
def daysInMonth (year month : Nat) : Nat :=
  if month = 2 then (if isLeap year then 29 else 28)
  else if month = 4 ∨ month = 6 ∨ month = 9 ∨ month = 11 then 30
  else 31

/-- The number of days of a year before a month begins. -/
def daysBeforeMonth (year : Nat) : Nat → Nat
  | 0 => 0
  | month + 1 => if month = 0 then 0 else daysBeforeMonth year month + daysInMonth year month

/-- The number of days before a year begins. -/
def daysBeforeYear (year : Nat) : Nat :=
  let y := year - 1
  y * 365 + y / 4 - y / 100 + y / 400

/-- The number of the day; the first of January of the year 1 has number 1. -/
def ordinal (date : Date) : Nat :=
  daysBeforeYear date.year + daysBeforeMonth date.year date.month + date.day

/-- The month and day that lie a number of days after the given month begins; at most twelve months
are passed. -/
def inYear (year : Nat) : Nat → Nat → Nat → Nat × Nat
  | 0, month, rest => (month, rest + 1)
  | fuel + 1, month, rest =>
    if rest < daysInMonth year month then (month, rest + 1)
    else inYear year fuel (month + 1) (rest - daysInMonth year month)

/-- The day with a number. Days are split off in periods of 400, 100, 4 and 1 years, and the last
day of a leap period belongs to its last year. -/
def ofOrdinal (number : Nat) : Date :=
  let n := number - 1
  let n400 := n / 146097
  let n := n % 146097
  let n100 := min (n / 36524) 3
  let n := n - n100 * 36524
  let n4 := n / 1461
  let n := n % 1461
  let n1 := min (n / 365) 3
  let n := n - n1 * 365
  let year := n400 * 400 + n100 * 100 + n4 * 4 + n1 + 1
  let (month, day) := inYear year 11 1 n
  ⟨year, month, day⟩

/-- The number of the last day of the calendar. -/
def maxOrdinal : Nat := 3652059

/-- The day with the given parts, if there is one. -/
def make? (year month day : Nat) : Option Date :=
  if 1 ≤ year ∧ year ≤ maxYear ∧ 1 ≤ month ∧ month ≤ 12 ∧ 1 ≤ day ∧ day ≤ daysInMonth year month
  then some ⟨year, month, day⟩ else none

/-- The day of the week; Monday is 0. -/
def weekday (date : Date) : Nat := (date.ordinal + 6) % 7

/-- The day of a week that is numbered within its year, if there is one: week 1 holds the first
Thursday of the year, and Monday is day 1. -/
def ofWeek? (year week day : Nat) : Option Date :=
  let first := (⟨year, 1, 1⟩ : Date)
  let isLong := first.weekday == 3 || (first.weekday == 2 && isLeap year)
  if 1 ≤ year ∧ 1 ≤ week ∧ (week ≤ 52 ∨ (week = 53 ∧ isLong)) ∧ 1 ≤ day ∧ day ≤ 7 then
    let monday : Int := (first.ordinal : Int) - first.weekday + (if first.weekday ≤ 3 then 0 else 7)
    let number := monday + (week - 1 : Nat) * 7 + (day - 1 : Nat)
    if 1 ≤ number ∧ number ≤ maxOrdinal then some (ofOrdinal number.toNat) else none
  else none

/-- The text of a day: four, two and two digits between hyphens. -/
def text (date : Date) : List Char :=
  padded 4 date.year ++ '-' :: padded 2 date.month ++ '-' :: padded 2 date.day

/-- The short names of the days of the week. -/
def dayNames : List String := ["Mon", "Tue", "Wed", "Thu", "Fri", "Sat", "Sun"]

/-- The short names of the months. -/
def monthNames : List String :=
  ["Jan", "Feb", "Mar", "Apr", "May", "Jun", "Jul", "Aug", "Sep", "Oct", "Nov", "Dec"]

end Date

end AuditTrail
