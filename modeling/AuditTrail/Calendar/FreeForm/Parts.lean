import AuditTrail.Calendar.FreeForm.Token
import AuditTrail.Calendar.Moment
import AuditTrail.Number.Scientific
/-!
What a date in free form yields: numbers that are years, months or days by their form or only by
their order, and the parts of a time of day.
-/

namespace AuditTrail.FreeForm

/-- Why a text yields no date. -/
inductive Trouble where
  /-- The text has no reading. -/
  | unreadable
  /-- A part of an hour or minute is asked of a number with too many digits. -/
  | imprecise
deriving DecidableEq, Repr

/-- The role of a number in a date. -/
inductive Role where
  | year
  | month
deriving DecidableEq, Repr

/-- A number in a date, with its role if the text shows it. -/
structure DateNumber where
  /-- The number. -/
  value : Nat
  /-- Its role. -/
  role : Option Role
deriving DecidableEq, Repr

/-- What a text has yielded so far. -/
structure Parts where
  /-- The numbers of the date, in their order. -/
  numbers : List DateNumber
  /-- Set when a year was written in full. -/
  fullYear : Bool
  /-- The day of the week. -/
  weekday : Option Nat
  /-- The hour. -/
  hour : Option Nat
  /-- The minute. -/
  minute : Option Nat
  /-- The second. -/
  second : Option Nat
  /-- The microsecond. -/
  microsecond : Option Nat
  /-- Set when a half of the day was named. -/
  halfNamed : Bool
  /-- The name of a zone. -/
  zone : Option Token
  /-- The offset of a zone in seconds. -/
  offset : Option Int
deriving DecidableEq, Repr

namespace Parts

/-- No parts. -/
def empty : Parts := ⟨[], false, none, none, none, none, none, false, none, none⟩

/-- Whether a number has a role already. -/
def has (role : Role) (parts : Parts) : Bool := parts.numbers.any (·.role == some role)

/-- The number with a role. -/
def get? (role : Role) (parts : Parts) : Option Nat :=
  (parts.numbers.find? (·.role == some role)).map (·.value)

/-- Adds a number to the date; a role is given only once. -/
def addNumber (parts : Parts) (value : Nat) (role : Option Role) (full : Bool) :
    Except Trouble Parts :=
  if role.any parts.has then .error .unreadable
  else .ok { parts with
    numbers := parts.numbers ++ [⟨value, role⟩], fullYear := parts.fullYear || full }

/-- Adds a number by its text. A number of more than two digits is a year. -/
def addText (parts : Parts) (token : Token) (role : Option Role) : Except Trouble Parts :=
  let full := 2 < token.length && token.all Text.isDigit
  match readInteger? token with
  | some value => parts.addNumber value.toNat (if full then some .year else role) full
  | none => .error .unreadable

/-- A year of two digits belongs to the century that brings it nearest to today. -/
def fullYearOf (today year : Nat) : Nat :=
  if year < 100 then
    let year := year + today / 100 * 100
    if today + 50 ≤ year then year - 100
    else if year + 50 < today then year + 100
    else year
  else year

/-- A date of which some parts are given. -/
structure PartialDate where
  /-- The year. -/
  year : Option Nat
  /-- The month. -/
  month : Option Nat
  /-- The day. -/
  day : Option Nat

/-- One number beside a month: a year if it is past the days of a month. -/
def besideMonth (month : Option Nat) (other : Nat) : PartialDate :=
  if 31 < other then ⟨some other, month, none⟩ else ⟨none, month, some other⟩

/-- The date that the numbers write. Roles decide; where they leave a choice, a number past 31 is
a year, one past 12 is no month, and the month stands before the day. -/
def resolve : List DateNumber → Except Trouble PartialDate
  | [] => .ok ⟨none, none, none⟩
  | [a] =>
    match a.role with
    | some .year => .ok ⟨some a.value, none, none⟩
    | some .month => .ok ⟨none, some a.value, none⟩
    | none => .ok (besideMonth none a.value)
  | [a, b] =>
    match a.role, b.role with
    | some .year, some .month => .ok ⟨some a.value, some b.value, none⟩
    | some .month, some .year => .ok ⟨some b.value, some a.value, none⟩
    | some .month, _ => .ok (besideMonth (some a.value) b.value)
    | _, some .month => .ok (besideMonth (some b.value) a.value)
    | _, _ =>
      if 31 < a.value then .ok ⟨some a.value, some b.value, none⟩
      else if 31 < b.value then .ok ⟨some b.value, some a.value, none⟩
      else .ok ⟨none, some a.value, some b.value⟩
  | [a, b, c] =>
    let date (year month day : DateNumber) : Except Trouble PartialDate :=
      .ok ⟨some year.value, some month.value, some day.value⟩
    match a.role, b.role, c.role with
    | some .year, some .month, _ => date a b c
    | some .year, _, some .month => date a c b
    | some .month, some .year, _ => date b a c
    | _, some .year, some .month => date b c a
    | some .month, _, some .year => date c a b
    | _, some .month, some .year => date c b a
    | some .month, _, _ => if 31 < b.value then date b a c else date c a b
    | _, some .month, _ => if 31 < a.value then date a b c else date c b a
    | _, _, some .month => if 31 < b.value then date b c a else date a c b
    | _, _, _ =>
      if 31 < a.value ∨ a.role = some .year then date a b c
      else if 12 < a.value then date c b a
      else date c a b
  | _ => .error .unreadable

/-- Whether anything was found. -/
def isEmpty (parts : Parts) : Bool :=
  parts.numbers.isEmpty && parts.weekday.isNone && parts.hour.isNone && parts.minute.isNone &&
    parts.second.isNone && parts.microsecond.isNone && !parts.halfNamed && parts.zone.isNone &&
    parts.offset.isNone

end Parts

/-- A decimal number `digits / 10 ^ places` in a text. -/
structure Amount where
  /-- All digits as one whole number. -/
  digits : Nat
  /-- The number of digits after the point. -/
  places : Nat
deriving DecidableEq, Repr

namespace Amount

/-- The number that a token writes. -/
def read? (token : Token) : Option Amount := do
  let (digits, exponent) ← Scientific.unsigned? (← Scientific.normal? token)
  pure ⟨digits, (-exponent).toNat⟩

/-- The whole part. -/
def whole (a : Amount) : Nat := a.digits / Nat.pow 10 a.places

/-- The count of significant digits that calculations keep. -/
def precision : Nat := 28

/-- The amount rounded to the digits that calculations keep. -/
def rounded (a : Amount) : Amount :=
  let excess := (Nat.toDigits 10 a.digits).length - precision
  ⟨roundHalfEven a.digits (Nat.pow 10 excess) * Nat.pow 10 excess, a.places⟩

/-- The part after the point in sixtieths, if there is any. -/
def sixtieths (a : Amount) : Except Trouble (Option Nat) :=
  if Nat.pow 10 precision ≤ a.whole then .error .imprecise
  else
    let rest := rounded ⟨a.digits % Nat.pow 10 a.places, a.places⟩
    if rest.digits = 0 then .ok none
    else .ok (some (rounded ⟨60 * rest.digits, rest.places⟩).whole)

/-- Whether the amount lies between 1 and a whole number. -/
def isBetweenOneAnd (bound : Nat) (a : Amount) : Bool :=
  Nat.pow 10 a.places ≤ a.digits && a.digits ≤ bound * Nat.pow 10 a.places

/-- Whether the amount is above a whole number. -/
def isAbove (bound : Nat) (a : Amount) : Bool := bound * Nat.pow 10 a.places < a.digits

end Amount

end AuditTrail.FreeForm
