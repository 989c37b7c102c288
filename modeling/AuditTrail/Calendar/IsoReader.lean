import AuditTrail.Calendar.Moment
/-!
Standard date and time text. The date is `YYYY-MM-DD`, `YYYYMMDD`, `YYYY-Www`, `YYYYWww`,
`YYYY-Www-D` or `YYYYWwwD`; one separator of any kind may follow, then a time of day with or
without colons, then an offset from universal time.
-/

namespace AuditTrail.Iso

/-- The value of one plain digit. -/
def digit? : List Char → Option Nat
  | c :: _ => if c.isDigit then some (c.toNat - 0x30) else none
  | [] => none

/-- A number of exactly the given count of plain digits, and what follows it. -/
def number? : Nat → Nat → List Char → Option (Nat × List Char)
  | 0, value, text => some (value, text)
  | count + 1, value, text => do
    let d ← digit? text
    number? count (value * 10 + d) text.tail

/-- Two digits and what follows them. -/
def pair? (text : List Char) : Option (Nat × List Char) := number? 2 0 text

/-- A reading pointer at the end of a text, or at a terminator. -/
def atEnd : List Char → Bool
  | [] => true
  | c :: _ => c.toNat == 0

/-- Whether a plain digit stands at an index. -/
def digitAt (text : List Char) (index : Nat) : Bool := (digit? (text.drop index)).isSome

/-- The length of the date at the start of a text. Where a week date leaves a choice, a hyphen after
the week is the separator if two digits follow it, and without hyphens
the digits after the week hold a day and a separator if their number is even, and only a separator
if it is odd and above one. -/
def dateLength? (text : List Char) : Option Nat :=
  let length := text.length
  if length < 7 then none
  else if length = 7 then some 7
  else if text[4]? = some '-' then
    if text[5]? = some 'W' then
      if text[8]? = some '-' then
        if length = 9 then none else if digitAt text 10 then some 8 else some 10
      else some 8
    else some 10
  else if text[4]? = some 'W' then
    let run := 7 + ((text.drop 7).takeWhile Char.isDigit).length
    if run < 9 then some run else if run % 2 = 0 then some 7 else some 8
  else some 8

/-- The rest of a week date after its week number. -/
def weekDay? (hyphens : Bool) (text : List Char) (length : Nat) : Option Nat :=
  if length = (if hyphens then 8 else 7) then some 1
  else
    match hyphens, text with
    | true, '-' :: rest => digit? rest
    | true, _ => none
    | false, _ => digit? text

/-- The date in the first `length` characters of a text. -/
def date? (text : List Char) (length : Nat) : Option Date := do
  let (year, rest) ← number? 4 0 text
  let hyphens := rest.head? == some '-'
  let rest := if hyphens then rest.tail else rest
  match rest with
  | 'W' :: rest =>
    let (week, rest) ← pair? rest
    let day ← weekDay? hyphens rest length
    Date.ofWeek? year week day
  | _ =>
    let (month, rest) ← pair? rest
    let rest ← if !hyphens then some rest
      else if rest.head? == some '-' then some rest.tail
      else none
    let (day, _) ← pair? rest
    Date.make? year month day

/-- A time of day as it is written. -/
structure Clock where
  /-- The hour. -/
  hour : Nat
  /-- The minute. -/
  minute : Nat
  /-- The second. -/
  second : Nat
  /-- The microsecond. -/
  microsecond : Nat
deriving DecidableEq, Repr

/-- The microseconds that digits after a point write; digits past the sixth are dropped. The count
of characters available bounds the digits that count. -/
def fraction? (available : Nat) (text : List Char) : Option (Nat × List Char) := do
  let count := min available 6
  let (value, rest) ← number? count 0 text
  pure (value * Nat.pow 10 (6 - count), rest.dropWhile Char.isDigit)

/-- What stands after a part of a time of day. -/
inductive After where
  /-- The next part. -/
  | part (text : List Char)
  /-- The digits of a fraction. -/
  | fraction (text : List Char)
  /-- Nothing more; `clean` if the text ends here. -/
  | finished (clean : Bool)
  /-- Something that cannot stand there. -/
  | malformed

/-- Looks behind a part of a time of day of which `length` characters are left. A single ASCII
character that is left over does no harm when an offset follows it. -/
def after (colons : Bool) (length : Nat) (text : List Char) : After :=
  match text with
  | [] => .finished true
  | c :: rest =>
    if length = 0 then .finished (atEnd text)
    else if 0x80 ≤ c.toNat then .malformed
    else if length = 1 then .finished (atEnd text)
    else if colons && c == ':' then .part rest
    else if c == '.' || c == ',' then .fraction rest
    else if colons then .malformed
    else .part text

/-- A fraction that ends a time of day. -/
def finishFraction? (clock : Clock) (available : Nat) (text : List Char) :
    Option (Clock × Bool) := do
  let (microsecond, rest) ← fraction? available text
  pure ({ clock with microsecond := microsecond }, atEnd rest)

/-- The second and fraction of a time of day; `finish` is what is left when it ends. -/
def seconds? (clock : Clock) (colons : Bool) (finish : Nat) (text : List Char) :
    Option (Clock × Bool) := do
  let (second, rest) ← pair? text
  let clock := { clock with second := second }
  match after colons (rest.length - finish) rest with
  | .part more => finishFraction? clock (more.length - finish) more
  | .fraction more => finishFraction? clock (more.length - finish) more
  | .finished clean => some (clock, clean)
  | .malformed => none

/-- The minute, second and fraction of a time of day. -/
def minutes? (clock : Clock) (colons : Bool) (finish : Nat) (text : List Char) :
    Option (Clock × Bool) := do
  let (minute, rest) ← pair? text
  let clock := { clock with minute := minute }
  match after colons (rest.length - finish) rest with
  | .part more => seconds? clock colons finish more
  | .fraction more => finishFraction? clock (more.length - finish) more
  | .finished clean => some (clock, clean)
  | .malformed => none

/-- A time of day that ends where `finish` characters are left, and whether the text ends with
it. -/
def clock? (finish : Nat) (text : List Char) : Option (Clock × Bool) := do
  let (hour, rest) ← pair? text
  let clock : Clock := ⟨hour, 0, 0, 0⟩
  let colons := rest.head? == some ':'
  match after colons (rest.length - finish) rest with
  | .part more => minutes? clock colons finish more
  | .fraction more => finishFraction? clock (more.length - finish) more
  | .finished clean => some (clock, clean)
  | .malformed => none

/-- A character that begins an offset. -/
def beginsOffset (c : Char) : Bool := c == '+' || c == '-' || c == 'Z'

/-- The offset that a sign and a clock time write. A whole offset of zero is universal time. -/
def zoneOf? (negative : Bool) (clock : Clock) : Option Zone :=
  let seconds := clock.hour * 3600 + clock.minute * 60 + clock.second
  if seconds = 0 then some .utc
  else
    let n : Int := (seconds * microsecondsPerSecond + clock.microsecond : Nat)
    let offset := if negative then -n else n
    if Zone.isOffset offset then some (.fixed offset) else none

/-- The time of day and zone in the rest of a text. -/
def time? (text : List Char) : Option (Clock × Option Zone) := do
  let tail := text.dropWhile (fun c => !beginsOffset c)
  let (clock, clean) ← clock? tail.length text
  match tail with
  | [] => if clean then some (clock, none) else none
  | 'Z' :: rest => if atEnd rest then some (clock, some .utc) else none
  | sign :: rest =>
    let (offset, clean) ← clock? 0 rest
    if clean then some (clock, some (← zoneOf? (sign == '-') offset)) else none

/-- The moment that a standard text writes. -/
def read? (text : List Char) : Option Moment := do
  let length ← dateLength? text
  let date ← date? text length
  match text.drop length with
  | [] => Moment.make? date 0 0 0 0 none
  | _ :: rest =>
    let (clock, zone) ← time? rest
    Moment.make? date clock.hour clock.minute clock.second clock.microsecond zone

end AuditTrail.Iso
