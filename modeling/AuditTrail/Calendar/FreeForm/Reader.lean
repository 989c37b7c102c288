import AuditTrail.Calendar.FreeForm.Parts
import AuditTrail.Calendar.FreeForm.Words
/-!
Reading a date in free form. The tokens are read from left to right; a number takes its meaning
from the tokens around it. What the text does not give comes from today, at midnight.
-/

namespace AuditTrail.FreeForm

/-- The outcome of reading one token: the parts, how many further tokens were used up, and whether
the sign that follows is to be turned round. -/
structure Outcome where
  /-- The parts found so far. -/
  parts : Parts
  /-- The count of tokens used after the one that was read. -/
  used : Nat
  /-- Set when the next token is a sign that counts the other way. -/
  turned : Bool := false

/-- The hour of the day for an hour in one of its halves. -/
def hourInHalf (hour : Nat) (afternoon : Bool) : Nat :=
  if hour < 12 && afternoon then hour + 12 else if hour == 12 && !afternoon then 0 else hour

/-- A whole number by its text. -/
def whole (token : Token) : Except Trouble Nat :=
  match readInteger? token with
  | some n => .ok n.toNat
  | none => .error .unreadable

/-- An amount by its text. -/
def amount (token : Token) : Except Trouble Amount :=
  match Amount.read? token with
  | some a => .ok a
  | none => .error .unreadable

/-- Seconds and microseconds by their text; digits past the sixth are dropped. -/
def secondsOf (token : Token) : Except Trouble (Nat × Nat) := do
  if !token.contains '.' then pure (← whole token, 0)
  else
    let fraction := (token.dropWhile (· != '.')).tail
    if fraction.contains '.' then throw .unreadable
    let padded := (fraction ++ List.replicate (6 - fraction.length) '0').take 6
    pure (← whole (token.takeWhile (· != '.')), ← whole padded)

/-- Sets the minute, and the second to what the minute has after its point. -/
def withMinute (parts : Parts) (a : Amount) : Except Trouble Parts := do
  let second ← a.sixtieths
  pure { parts with minute := some a.whole, second := second }

/-- Sets the part of a time of day that a number has been named as. -/
def withUnit (parts : Parts) (token : Token) (a : Amount) : Nat → Except Trouble Parts
  | 0 => do
    let parts := { parts with hour := some a.whole }
    match ← a.sixtieths with
    | some minute => pure { parts with minute := some minute }
    | none => pure parts
  | 1 => withMinute parts a
  | 2 => do
    let (second, microsecond) ← secondsOf token
    pure { parts with second := some second, microsecond := some microsecond }
  | _ => pure parts

/-- The part of a time of day that the tokens around a number name it as, and how many tokens
after it are used: the name follows the number, perhaps after a space, or a larger part's name
stands before it. -/
def unitAround? (before rest : List Token) : Option (Nat × Nat) :=
  match rest with
  | next :: later =>
    match unit? next with
    | some unit => some (unit, 1)
    | none =>
      match (if next == [' '] then later.head?.bind unit? else none) with
      | some unit => some (unit, 2)
      | none => (before.head?.bind unit?).map fun unit => (unit + 1, 0)
  | [] =>
    match before with
    | last :: earlier =>
      match unit? last with
      | some unit => some (unit + 1, 0)
      | none =>
        if last == [' '] then (earlier.head?.bind unit?).map fun unit => (unit + 1, 0) else none
    | [] => none

/-- Adds a day, month or year; above one hundred it is a year. -/
def addAmount (parts : Parts) (a : Amount) : Except Trouble Parts :=
  let full := a.isAbove 100
  parts.addNumber a.whole (if full then some .year else none) full

/-- Whether a number can be the day of the date so far. -/
def couldBeDay (parts : Parts) (a : Amount) : Bool :=
  match parts.get? .month with
  | none => a.isBetweenOneAnd 31
  | some month => a.isBetweenOneAnd (Date.daysInMonth ((parts.get? .year).getD 2000) month)

/-- A month's name or a number, after a date separator. -/
def addNamed (parts : Parts) (token : Token) : Except Trouble Parts :=
  match month? token with
  | some month => parts.addNumber month (some .month) false
  | none => parts.addText token none

/-- The numbers of a date with separators, from the first on. -/
def separated (parts : Parts) (token separator : Token) (later : List Token) :
    Except Trouble Outcome := do
  let parts ← parts.addText token none
  match later with
  | [] => pure ⟨parts, 1, false⟩
  | second :: later =>
    if isFiller second then pure ⟨parts, 1, false⟩
    else
      let parts ←
        if second.all Text.isDigit then parts.addText second none
        else match month? second with
          | some month => parts.addNumber month (some .month) false
          | none => throw .unreadable
      match later with
      | next :: later =>
        if next == separator then
          match later with
          | third :: _ => pure ⟨← addNamed parts third, 4, false⟩
          | [] => throw .unreadable
        else pure ⟨parts, 2, false⟩
      | [] => pure ⟨parts, 2, false⟩

/-- The parts of a clock time with colons, from the hour on. -/
def clock (parts : Parts) (a : Amount) (minute : Token) (later : List Token) :
    Except Trouble Outcome := do
  let parts ← withMinute { parts with hour := some a.whole } (← amount minute)
  match later with
  | next :: second :: _ =>
    if next == [':'] then
      let (second, microsecond) ← secondsOf second
      pure ⟨{ parts with second := some second, microsecond := some microsecond }, 4, false⟩
    else pure ⟨parts, 2, false⟩
  | _ => pure ⟨parts, 2, false⟩

/-- Whether a number after a full date is a time of day without colons. -/
def isCompactClock (parts : Parts) (token : Token) (rest : List Token) : Bool :=
  parts.numbers.length == 3 && (token.length == 2 || token.length == 4) && parts.hour.isNone &&
    match rest with
    | [] => true
    | next :: _ => next != [':'] && (unit? next).isNone

/-- A number that is neither a compact date or time nor named as a part of a time of day. -/
def plainNumber (parts : Parts) (token : Token) (a : Amount) (rest : List Token) :
    Except Trouble Outcome :=
  let byNext : Except Trouble Outcome := do
    match rest with
    | [] => pure ⟨← addAmount parts a, 1, false⟩
    | next :: later =>
      if isFiller next then
        match later.head?.bind half? with
        | some afternoon =>
          pure ⟨{ parts with hour := some (hourInHalf a.whole afternoon) }, 2, false⟩
        | none => pure ⟨← addAmount parts a, 1, false⟩
      else
        match (if a.digits < 24 * Nat.pow 10 a.places then half? next else none) with
        | some afternoon =>
          pure ⟨{ parts with hour := some (hourInHalf a.whole afternoon) }, 1, false⟩
        | none =>
          if couldBeDay parts a then pure ⟨← addAmount parts a, 0, false⟩ else throw .unreadable
  match rest with
  | next :: later =>
    if next == [':'] && !later.isEmpty then clock parts a (later.headD []) later.tail
    else if next == ['-'] || next == ['/'] || next == ['.'] then separated parts token next later
    else byNext
  | [] => byNext

/-- A number. -/
def number (parts : Parts) (before : List Token) (token : Token) (rest : List Token) :
    Except Trouble Outcome := do
  let a ← amount token
  let slice (start count : Nat) : Token := (token.drop start).take count
  if isCompactClock parts token rest then
    let parts := { parts with hour := some (← whole (slice 0 2)) }
    if token.length = 4 then pure ⟨{ parts with minute := some (← whole (slice 2 2)) }, 0, false⟩
    else pure ⟨parts, 0, false⟩
  else if token.length = 6 ∨ (6 < token.length ∧ token.findIdx? (· == '.') = some 6) then
    if parts.numbers.isEmpty && !token.contains '.' then
      let parts ← parts.addText (slice 0 2) none
      let parts ← parts.addText (slice 2 2) none
      pure ⟨← parts.addText (slice 4 2) none, 0, false⟩
    else
      let hour ← whole (slice 0 2)
      let minute ← whole (slice 2 2)
      let (second, microsecond) ← secondsOf (token.drop 4)
      let parts := { parts with
        hour := some hour, minute := some minute, second := some second
        microsecond := some microsecond }
      pure ⟨parts, 0, false⟩
  else if token.length = 8 ∨ token.length = 12 ∨ token.length = 14 then
    let parts ← parts.addText (slice 0 4) (some .year)
    let parts ← parts.addText (slice 4 2) none
    let parts ← parts.addText (slice 6 2) none
    if token.length = 8 then pure ⟨parts, 0, false⟩
    else
      let parts := { parts with
        hour := some (← whole (slice 8 2)), minute := some (← whole (slice 10 2)) }
      if token.length = 12 then pure ⟨parts, 0, false⟩
      else pure ⟨{ parts with second := some (← whole (slice 12 2)) }, 0, false⟩
  else
    match unitAround? before rest with
    | some (unit, used) => pure ⟨← withUnit parts token a unit, used, false⟩
    | none => plainNumber parts token a rest

/-- A month's name, with a number or two behind separators, or a year after the word `of`. -/
def monthName (today : Nat) (parts : Parts) (month : Nat) (rest : List Token) :
    Except Trouble Outcome := do
  let parts ← parts.addNumber month (some .month) false
  match rest with
  | [] => pure ⟨parts, 0, false⟩
  | next :: later =>
    if next == ['-'] || next == ['/'] then
      match later with
      | [] => throw .unreadable
      | second :: later =>
        let parts ← parts.addText second none
        match later with
        | separator :: later =>
          if separator == next then
            match later with
            | third :: _ => pure ⟨← parts.addText third none, 4, false⟩
            | [] => throw .unreadable
          else pure ⟨parts, 2, false⟩
        | [] => pure ⟨parts, 2, false⟩
    else
      match next, later with
      | [' '], word :: [' '] :: year :: _ =>
        if isOf word then
          if year.all Text.isDigit then
            let year := Parts.fullYearOf today (← whole year)
            pure ⟨← parts.addNumber year (some .year) (100 ≤ year), 4, false⟩
          else pure ⟨parts, 4, false⟩
        else pure ⟨parts, 0, false⟩
      | _, _ => pure ⟨parts, 0, false⟩

/-- A half of the day, which needs an hour of the twelve-hour clock. -/
def halfName (parts : Parts) (afternoon : Bool) : Except Trouble Outcome :=
  match parts.hour with
  | none => .error .unreadable
  | some hour =>
    if 12 < hour then .error .unreadable
    else .ok ⟨{ parts with hour := some (hourInHalf hour afternoon), halfNamed := true }, 0, false⟩

/-- Whether a token may name the zone of the time so far. -/
def couldBeZone (parts : Parts) (offset : Option Int) (token : Token) : Bool :=
  parts.hour.isSome && parts.zone.isNone && offset.isNone && looksLikeZone token

/-- A sign. -/
def isSign (token : Token) : Bool := token == ['+'] || token == ['-']

/-- The name of a zone. A sign behind it tells how far universal time is from it, so the sign is
turned round; behind a name of universal time it makes another zone. -/
def zoneName (parts : Parts) (token : Token) (rest : List Token) : Outcome :=
  let signed := rest.head?.any isSign
  let offset := if token == ['z'] then some 0 else none
  if signed then
    ⟨{ parts with zone := if isUniversal token then none else some token, offset := none }, 0, true⟩
  else ⟨{ parts with zone := some token, offset := offset }, 0, false⟩

/-- A name of the zone in parentheses behind its offset. -/
def zoneInParentheses? (parts : Parts) (rest : List Token) : Option Token :=
  match rest with
  | filler :: ['('] :: name :: [')'] :: _ =>
    if isFiller filler && 3 ≤ name.length && couldBeZone parts none name then some name else none
  | _ => none

/-- An offset from universal time: four digits, or hours and minutes around a colon, or hours. -/
def offset (parts : Parts) (negative : Bool) (rest : List Token) : Except Trouble Outcome := do
  match rest with
  | [] => throw .unreadable
  | digits :: later =>
    let (hours, minutes, used) ←
      if digits.length = 4 then
        pure (← whole (digits.take 2), ← whole (digits.drop 2), 1)
      else if later.head? == some [':'] then
        match later.tail with
        | minutes :: _ => pure (← whole digits, ← whole minutes, 3)
        | [] => throw .unreadable
      else if digits.length ≤ 2 then pure (← whole digits, 0, 1)
      else throw .unreadable
    let seconds : Int := (hours * 3600 + minutes * 60 : Nat)
    let parts := { parts with offset := some (if negative then -seconds else seconds) }
    match zoneInParentheses? parts (rest.drop used) with
    | some name => pure ⟨{ parts with zone := some name }, used + 4, false⟩
    | none => pure ⟨parts, used, false⟩

/-- One token. -/
def read (today : Nat) (parts : Parts) (before : List Token) (token : Token) (rest : List Token) :
    Except Trouble Outcome :=
  if (Scientific.readBinary64? token).isSome then number parts before token rest
  else if let some day := weekday? token then .ok ⟨{ parts with weekday := some day }, 0, false⟩
  else if let some month := month? token then monthName today parts month rest
  else if let some afternoon := half? token then halfName parts afternoon
  else if couldBeZone parts parts.offset token then .ok (zoneName parts token rest)
  else if parts.hour.isSome && isSign token then offset parts (token == ['-']) rest
  else if isFiller token then .ok ⟨parts, 0, false⟩
  else .error .unreadable

/-- A sign turned round. -/
def turnSign (token : Token) : Token := if token == ['+'] then ['-'] else ['+']

/-- The parts of a list of tokens, each step of which uses up at least one of them. -/
def partsFrom (today : Nat) : Nat → Parts → List Token → List Token → Except Trouble Parts
  | 0, parts, _, _ => .ok parts
  | _ + 1, parts, _, [] => .ok parts
  | fuel + 1, parts, before, token :: rest =>
    match read today parts before token rest with
    | .error trouble => .error trouble
    | .ok outcome =>
      let rest := match outcome.turned, rest with
        | true, sign :: later => turnSign sign :: later
        | _, _ => rest
      partsFrom today fuel outcome.parts ((rest.take outcome.used).reverse ++ token :: before)
        (rest.drop outcome.used)

/-- The date of today with the given parts; a day that is not given is clipped to the month. -/
def dateOf? (today : Date) (parts : Parts) (date : Parts.PartialDate) : Option Date :=
  let year := match date.year with
    | some year => if parts.fullYear then year else Parts.fullYearOf today.year year
    | none => today.year
  let month := date.month.getD today.month
  let day := date.day.getD (min today.day (Date.daysInMonth year month))
  Date.make? year month day

/-- The next day of the given name, today included; the calendar may end before it. -/
def onWeekday? (date : Date) (weekday : Nat) : Option Date :=
  let number := date.ordinal + (7 + weekday - date.weekday) % 7
  if number ≤ Date.maxOrdinal then some (Date.ofOrdinal number) else none

/-- A reading: the local time, and the offset of its zone in seconds if it has one. -/
structure Reading where
  /-- The local time. -/
  moment : Moment
  /-- The offset from universal time in seconds. -/
  offset : Option Int

/-- The widest offset, in seconds, that a span of time can have. -/
def maxOffset : Int := 86399999999999

/-- The least offset, in seconds, that a span of time can have. -/
def minOffset : Int := -86399999913600

/-- The reading that the parts make up. -/
def assemble (today : Date) (parts : Parts) : Option Reading := do
  let partialDate ← (Parts.resolve parts.numbers).toOption
  let date ← dateOf? today parts partialDate
  let naive ← Moment.make? date (parts.hour.getD 0) (parts.minute.getD 0) (parts.second.getD 0)
    (parts.microsecond.getD 0) none
  let date ← match parts.weekday, partialDate.day with
    | some weekday, none => onWeekday? date weekday
    | _, _ => some date
  let moment := { naive with wall := Moment.midnight date + naive.wall % microsecondsPerDay }
  let offset := if parts.zone.any isUniversal then some 0 else parts.offset
  if offset.all (fun n => minOffset ≤ n && n ≤ maxOffset) then some ⟨moment, offset⟩ else none

/-- The reading of a date in free form. -/
def read? (today : Date) (text : List Char) : Except Trouble Reading := do
  let tokens := tokens text
  let parts ← partsFrom today.year tokens.length Parts.empty [] tokens
  if parts.isEmpty then throw .unreadable
  match assemble today parts with
  | some reading => pure reading
  | none => throw .unreadable

end AuditTrail.FreeForm
