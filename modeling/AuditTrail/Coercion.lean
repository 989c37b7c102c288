import AuditTrail.Calendar.IsoReader
import AuditTrail.Fault
import AuditTrail.Text.Case
/-!
Reading the values of a request as truth values, whole numbers and points in time.
-/

namespace AuditTrail

open Text

/-- The words that mean yes. -/
def trueWords : List String := ["1", "true", "t", "yes", "y", "on"]

/-- The words that mean no; the empty word is one of them. -/
def falseWords : List String := ["0", "false", "f", "no", "n", "off", ""]

namespace Value

/-- The truth value that a value stands for; nothing for a null. -/
def toBool? : Value → Except Fault (Option Bool)
  | null => .ok none
  | bool b => .ok (some b)
  | int n => .ok (some (n != 0))
  | float x => .ok (some !x.isZero)
  | value =>
    let word := String.ofList (lower (trim value.display))
    if trueWords.contains word then .ok (some true)
    else if falseWords.contains word then .ok (some false)
    else .error (.notBoolean value)

/-- The whole number that a value or its text is; nothing for a null or a blank text. -/
def toInt? : Value → Except Fault (Option Int)
  | null => .ok none
  | int n => .ok (some n)
  | text s =>
    let word := trim s.toList
    if word.isEmpty then .ok none
    else match readInteger? word with
      | some n => .ok (some n)
      | none => .error (.notInteger (text s))
  | value => .error (.notInteger value)

end Value

namespace Zone

/-- The zone of a name. Universal time goes by its name in any letter case, and stands for an
empty or unknown name. -/
def ofName (regions : Regions) (name : String) : Zone :=
  if name.isEmpty || upper name.toList == "UTC".toList then utc
  else match regions.find? name with
    | some r => region r
    | none => utc

/-- The zone that a setting names. -/
def ofSetting (regions : Regions) : Value → Zone
  | .zone z => z
  | .text name => ofName regions name
  | _ => utc

end Zone

/-- A reader of dates in free form. -/
abbrev FreeForm := List Char → Except Fault Moment

/-- Whether a failure of reading a date tells that the text is none: one of the value, or a number
beyond its range. -/
def FaultKind.isUnreadable (kind : FaultKind) : Bool := kind.isUnacceptable || kind == .overflow

namespace Moment

/-- Whether the offset of a moment, if it is known, is shorter than a day. -/
def isShort (m : Moment) : Bool := m.offset?.all Zone.isOffset

/-- The moment by the clock of universal time. -/
def toUtc (m : Moment) : Except Fault Moment :=
  if m.isShort then
    match m.toUtc? with
    | some m => .ok m
    | none => .error .outsideCalendar
  else .error .offsetTooLong

/-- The moment by the clock of universal time; one without a zone is taken in the given zone. -/
def normalize (zone : Zone) (m : Moment) : Except Fault Moment := (m.orZone zone).toUtc

/-- The day on which counting seconds began. -/
def epochWall : Nat := midnight ⟨1970, 1, 1⟩

/-- Counts of seconds that the platform's calendar can name a year for. -/
def hasPlatformYear (seconds : Int) : Bool :=
  -67768040609740800 ≤ seconds && seconds ≤ 67768036191676799

/-- The moment at a whole number of seconds and some microseconds from the beginning of 1970. -/
def atSecond (seconds : Int) (microseconds : Nat) : Except Fault Moment :=
  if seconds < -(Int.pow 2 63) ∨ Int.pow 2 63 ≤ seconds then .error .secondsTooMany
  else if !hasPlatformYear seconds then .error .yearTooDistant
  else
    let wall : Int := epochWall + seconds * microsecondsPerSecond + microseconds
    if 0 ≤ wall ∧ wall < wallLimit then .ok ⟨wall.toNat, some .utc, false⟩
    else .error .yearOutOfRange

/-- The moment at a number of seconds from the beginning of 1970, rounded to microseconds. -/
def ofSeconds (x : Binary64) : Except Fault Moment :=
  match x.truncate? with
  | none => .error (if x = .nan then .undefinedSeconds else .secondsTooMany)
  | some whole =>
    let scaled := (x.sub (Binary64.ofInt whole)).mul (Binary64.ofInt microsecondsPerSecond)
    let micro : Int := match scaled.toRatio? with
      | some (num, den) => roundHalfEvenInt num den
      | none => 0
    if micro < 0 then atSecond (whole - 1) (micro + microsecondsPerSecond).toNat
    else if (microsecondsPerSecond : Int) ≤ micro then
      atSecond (whole + 1) (micro - microsecondsPerSecond).toNat
    else atSecond whole micro.toNat

/-- The least number that counts milliseconds instead of seconds. -/
def millisecondBound : Nat := 100000000000

/-- The moment that a number stands for: a count of seconds, or of milliseconds if it is large. -/
def ofNumber (x : Binary64) : Except Fault Moment :=
  ofSeconds (if x.absReaches millisecondBound then x.divNat 1000 else x)

/-- A final `Z` written as an offset of zero. -/
def withZeroOffset (text : List Char) : List Char :=
  if text.getLast? == some 'Z' then text.dropLast ++ "+00:00".toList else text

/-- The moment that a text stands for: standard text if it is that, else free form. -/
def ofText (freeForm : FreeForm) (zone : Zone) (s : String) : Except Fault Moment :=
  let body := trim s.toList
  match Iso.read? (withZeroOffset body) with
  | some m => normalize zone m
  | none =>
    match freeForm body with
    | .ok m => normalize zone m
    | .error fault =>
      if fault.kind.isUnreadable then .error (.notTimestamp (.text s)) else .error fault

end Moment

namespace Value

/-- A number read as a double-precision number. -/
def number (value : Value) : Except Fault Binary64 :=
  match value.toBinary64 with
  | .ok x => .ok x
  | .error cause => .error (.unconvertible cause)

/-- The moment, by the clock of universal time, that a value stands for; nothing for a null or a
blank text. Values without a zone are taken in the given one. -/
def toMoment? (freeForm : FreeForm) (zone : Zone) : Value → Except Fault (Option Moment)
  | null => .ok none
  | text s =>
    if (trim s.toList).isEmpty then .ok none else some <$> Moment.ofText freeForm zone s
  | moment m => some <$> m.normalize zone
  | date d => some <$> Moment.normalize zone ⟨Moment.midnight d, none, false⟩
  | int n => do some <$> Moment.ofNumber (← number (int n))
  | float x => some <$> Moment.ofNumber x
  | decimal d => do some <$> Moment.ofNumber (← number (decimal d))
  | value => .error (.notTimestamp value)

end Value

end AuditTrail
