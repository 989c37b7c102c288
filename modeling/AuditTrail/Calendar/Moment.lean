import AuditTrail.Calendar.Zone
/-!
Points in time as a calendar and a clock show them, with or without a time zone.
-/

namespace AuditTrail

/-- A date and time of day, to the microsecond. -/
structure Moment where
  /-- The microseconds since the first midnight of the year 1, by the local clock. -/
  wall : Nat
  /-- The zone of the local clock, if it is known. -/
  zone : Option Zone
  /-- Set for the second of two equal local times at a change of the clocks. -/
  fold : Bool
deriving Inhabited

namespace Moment

/-- The first local time past the calendar. -/
def wallLimit : Nat := Date.maxOrdinal * microsecondsPerDay

/-- Midnight of a day. -/
def midnight (date : Date) : Nat := (date.ordinal - 1) * microsecondsPerDay

/-- A time of day in microseconds. -/
def timeOfDay (hour minute second microsecond : Nat) : Nat :=
  ((hour * 60 + minute) * 60 + second) * microsecondsPerSecond + microsecond

/-- The moment with the given parts, if they name one. -/
def make? (date : Date) (hour minute second microsecond : Nat) (zone : Option Zone) :
    Option Moment :=
  if hour < 24 ∧ minute < 60 ∧ second < 60 ∧ microsecond < 1000000 then
    some ⟨midnight date + timeOfDay hour minute second microsecond, zone, false⟩
  else none

/-- The day. -/
def date (m : Moment) : Date := Date.ofOrdinal (m.wall / microsecondsPerDay + 1)

/-- The hour of the day. -/
def hour (m : Moment) : Nat := m.wall / (3600 * microsecondsPerSecond) % 24

/-- The minute of the hour. -/
def minute (m : Moment) : Nat := m.wall / (60 * microsecondsPerSecond) % 60

/-- The second of the minute. -/
def second (m : Moment) : Nat := m.wall / microsecondsPerSecond % 60

/-- The microsecond of the second. -/
def microsecond (m : Moment) : Nat := m.wall % microsecondsPerSecond

/-- The offset from universal time, when the zone is known. -/
def offset? (m : Moment) : Option Int := m.zone.map (·.offset m.wall m.fold)

/-- The moment by the clock of universal time; nothing when the calendar has no such local time. -/
def toUtc? (m : Moment) : Option Moment :=
  let wall : Int := m.wall - m.offset?.getD 0
  if 0 ≤ wall ∧ wall < wallLimit then some ⟨wall.toNat, some .utc, false⟩ else none

/-- The moment with a zone for one that has none. -/
def orZone (m : Moment) (zone : Zone) : Moment :=
  match m.zone with
  | some _ => m
  | none => { m with zone := some zone }

/-- A clock time of hours and minutes, with seconds and microseconds when they are not zero. -/
def offsetText (microseconds : Int) : List Char :=
  let n := microseconds.natAbs
  let seconds := n / microsecondsPerSecond
  let fraction := n % microsecondsPerSecond
  let sign := if microseconds < 0 then '-' else '+'
  let tail :=
    if fraction ≠ 0 then ':' :: padded 2 (seconds % 60) ++ '.' :: padded 6 fraction
    else if seconds % 60 ≠ 0 then ':' :: padded 2 (seconds % 60)
    else []
  sign :: padded 2 (seconds / 3600) ++ ':' :: padded 2 (seconds / 60 % 60) ++ tail

/-- The time of day, with microseconds when they are not zero. -/
def clockText (m : Moment) : List Char :=
  padded 2 m.hour ++ ':' :: padded 2 m.minute ++ ':' :: padded 2 m.second ++
    (if m.microsecond = 0 then [] else '.' :: padded 6 m.microsecond)

/-- The date, a separator, the time of day and the offset if the zone is known. -/
def textWith (separator : Char) (m : Moment) : List Char :=
  m.date.text ++ separator :: m.clockText ++ (m.offset?.map offsetText).getD []

/-- The standard text of a moment. -/
def isoText (m : Moment) : List Char := textWith 'T' m

/-- The standard text in which an offset of zero is written `Z`. -/
def zuluText (m : Moment) : List Char :=
  let body := m.date.text ++ 'T' :: m.clockText
  match m.offset? with
  | none => body
  | some 0 => body ++ ['Z']
  | some offset => body ++ offsetText offset

/-- The text of a moment in message headers, by the clock of universal time. -/
def headerText (m : Moment) : List Char :=
  ((Date.dayNames.getD m.date.weekday "").toList) ++ ", ".toList ++ padded 2 m.date.day ++
    ' ' :: ((Date.monthNames.getD (m.date.month - 1) "").toList) ++ ' ' :: padded 4 m.date.year ++
    ' ' :: padded 2 m.hour ++ ':' :: padded 2 m.minute ++ ':' :: padded 2 m.second ++ " GMT".toList

end Moment

end AuditTrail
