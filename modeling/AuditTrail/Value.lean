import AuditTrail.Address
import AuditTrail.Calendar.Moment
import AuditTrail.Number.Decimal
import AuditTrail.Number.Shortest
import AuditTrail.Text.Utf8
/-!
The values that requests, rows and settings carry, with their texts and their conversions to
numbers.
-/

namespace AuditTrail

open Text

/-- A value. -/
inductive Value where
  | null
  | bool (b : Bool)
  | int (n : Int)
  | float (x : Binary64)
  | decimal (d : Decimal)
  | text (s : String)
  /-- Raw bytes, in a buffer that may be changed or not. -/
  | bytes (changeable : Bool) (data : List UInt8)
  | date (d : Date)
  | moment (m : Moment)
  | zone (z : Zone)
  | address (a : Address)
  | list (items : List Value)
  /-- Named entries in the order in which their names came first. -/
  | map (entries : List (String × Value))
deriving Inhabited

/-- Why a value is no number of the kind asked for. -/
inductive Unconvertible where
  /-- The content is no number. -/
  | invalid
  /-- The number is out of range. -/
  | tooLarge
  /-- Values of this kind are no numbers. -/
  | unsupported
deriving DecidableEq, Repr

/-- Puts an entry into a list of entries. A name that is there keeps its place. -/
def Value.insert (name : String) (value : Value) :
    List (String × Value) → List (String × Value)
  | [] => [(name, value)]
  | (other, old) :: rest =>
    if other == name then (name, value) :: rest else (other, old) :: Value.insert name value rest

/-- Names, each followed by a text, in parentheses behind a word. -/
def constructed (name : String) (arguments : List (List Char)) : List Char :=
  name.toList ++ '(' :: join [',', ' '] arguments ++ [')']

namespace Zone

/-- A span of microseconds as days, seconds and microseconds, of which zeros are left out. -/
def spanLiteral (microseconds : Int) : List Char :=
  let days := microseconds / microsecondsPerDay
  let rest := (microseconds % microsecondsPerDay).toNat
  let part (name : String) (n : Int) : List (List Char) :=
    if n = 0 then [] else [name.toList ++ '=' :: integerText n]
  let parts := part "days" days ++ part "seconds" (rest / microsecondsPerSecond : Nat) ++
    part "microseconds" (rest % microsecondsPerSecond : Nat)
  constructed "datetime.timedelta" (if parts.isEmpty then [['0']] else parts)

/-- The notation of a zone in messages. -/
def literal : Zone → List Char
  | utc => "datetime.timezone.utc".toList
  | fixed microseconds => constructed "datetime.timezone" [spanLiteral microseconds]
  | region r => constructed "zoneinfo.ZoneInfo" ["key=".toList ++ quoted r.name.toList]

end Zone

namespace Date

/-- The notation of a day in messages. -/
def literal (d : Date) : List Char :=
  constructed "datetime.date" ([d.year, d.month, d.day].map (Nat.toDigits 10))

end Date

namespace Moment

/-- The notation of a moment in messages: seconds and microseconds are left out when zero. -/
def literal (m : Moment) : List Char :=
  let tail :=
    if m.microsecond ≠ 0 then [m.second, m.microsecond]
    else if m.second ≠ 0 then [m.second] else []
  let numbers := [m.date.year, m.date.month, m.date.day, m.hour, m.minute] ++ tail
  let fold := if m.fold then ["fold=1".toList] else []
  let zone := match m.zone with
    | some z => ["tzinfo=".toList ++ z.literal]
    | none => []
  constructed "datetime.datetime" (numbers.map (Nat.toDigits 10) ++ fold ++ zone)

end Moment

namespace Address

/-- The notation of an address in messages. -/
def literal (a : Address) : List Char :=
  constructed (match a with | v4 _ => "IPv4Address" | v6 _ => "IPv6Address") [quoted a.text]

end Address

namespace Value

mutual

/-- The notation of a value in messages. -/
def literal : Value → List Char
  | null => "None".toList
  | bool b => if b then "True".toList else "False".toList
  | int n => integerText n
  | float x => x.text
  | decimal d => constructed "Decimal" [quoted d.text]
  | text s => quoted s.toList
  | bytes changeable data =>
    if changeable then constructed "bytearray" [quotedBytes data] else quotedBytes data
  | date d => d.literal
  | moment m => m.literal
  | zone z => z.literal
  | address a => a.literal
  | list items => '[' :: join [',', ' '] (literals items) ++ [']']
  | map entries => '\x7b' :: join [',', ' '] (entryLiterals entries) ++ ['\x7d']

/-- The notations of some values. -/
def literals : List Value → List (List Char)
  | [] => []
  | item :: rest => literal item :: literals rest

/-- The notations of some named entries. -/
def entryLiterals : List (String × Value) → List (List Char)
  | [] => []
  | (name, value) :: rest =>
    (quoted name.toList ++ ':' :: ' ' :: literal value) :: entryLiterals rest

end

/-- The text of a value: its notation, except that text stands for itself, and numbers, dates and
addresses are written plainly. -/
def display : Value → List Char
  | text s => s.toList
  | decimal d => d.text
  | date d => d.text
  | moment m => m.textWith ' '
  | zone .utc => "UTC".toList
  | zone (.fixed microseconds) => "UTC".toList ++ Moment.offsetText microseconds
  | zone (.region r) => r.name.toList
  | address a => a.text
  | other => other.literal

/-- Whether a value is null. -/
def isNull : Value → Bool
  | null => true
  | _ => false

mutual

/-- How deeply a value is nested: a list or a map is one level above its deepest entry. -/
def height : Value → Nat
  | list items => height.ofList items + 1
  | map entries => height.ofEntries entries + 1
  | _ => 1

/-- How deeply the deepest of some values is nested. -/
def height.ofList : List Value → Nat
  | [] => 0
  | item :: rest => max (height item) (height.ofList rest)

/-- How deeply the deepest of some named entries is nested; their names are texts. -/
def height.ofEntries : List (String × Value) → Nat
  | [] => 0
  | (_, value) :: rest => max (height value) (height.ofEntries rest)

end

/-- A value that counts as absent: null, false, a zero, or something empty. -/
def isFalsy : Value → Bool
  | null => true
  | bool b => !b
  | int n => n == 0
  | float x => x.isZero
  | decimal d => d.isZero
  | text s => s.isEmpty
  | bytes _ data => data.isEmpty
  | list items => items.isEmpty
  | map entries => entries.isEmpty
  | _ => false

/-- ASCII bytes as text. -/
def asciiText? (data : List UInt8) : Option (List Char) :=
  if data.all (· < 0x80) then some (data.map fun byte => Char.ofNat byte.toNat) else none

/-- A number that a text may or may not write. -/
def readable {α : Type} : Option α → Except Unconvertible α
  | some a => .ok a
  | none => .error .invalid

/-- The whole number that a value stands for; fractions are dropped. -/
def toInt : Value → Except Unconvertible Int
  | bool b => .ok (if b then 1 else 0)
  | int n => .ok n
  | float .nan => .error .invalid
  | float (.infinite _) => .error .tooLarge
  | float x => readable x.truncate?
  | decimal (.finite negative digits exponent) => .ok (Decimal.truncated negative digits exponent)
  | decimal (.infinite _) => .error .tooLarge
  | decimal (.nan ..) => .error .invalid
  | text s => readable (readInteger? s.toList)
  | bytes _ data => readable ((asciiText? data).bind readInteger?)
  | address a => .ok a.number
  | _ => .error .unsupported

/-- The double-precision number that a value stands for. -/
def toBinary64 : Value → Except Unconvertible Binary64
  | bool b => .ok (Binary64.ofInt (if b then 1 else 0))
  | int n =>
    let x := Binary64.ofInt n
    if x.isFinite then .ok x else .error .tooLarge
  | float x => .ok x
  | decimal (.finite negative digits exponent) => .ok (Binary64.ofDecimal negative digits exponent)
  | decimal (.infinite negative) => .ok (.infinite negative)
  | decimal (.nan _ signaling _) => if signaling then .error .invalid else .ok .nan
  | text s => readable (Scientific.readBinary64? s.toList)
  | bytes _ data => readable ((asciiText? data).bind Scientific.readBinary64?)
  | _ => .error .unsupported

end Value

end AuditTrail
