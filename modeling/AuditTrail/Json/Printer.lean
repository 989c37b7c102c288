import AuditTrail.Value
/-!
Writing values as JSON text. All characters beyond ASCII are escaped, so the text is the same in
every encoding.
-/

namespace AuditTrail.Json

open Text

/-- A code unit escaped by four hexadecimal digits. -/
def escapedUnit (n : Nat) : List Char := '\\' :: 'u' :: hexDigits 4 n

/-- One character of a string. -/
def stringChar (c : Char) : List Char :=
  if c == '"' then ['\\', '"']
  else if c == '\\' then ['\\', '\\']
  else if c == '\n' then ['\\', 'n']
  else if c == '\r' then ['\\', 'r']
  else if c == '\t' then ['\\', 't']
  else if c.toNat == 8 then ['\\', 'b']
  else if c.toNat == 12 then ['\\', 'f']
  else
    let n := c.toNat
    if 0x20 ≤ n && n < 0x7F then [c]
    else if n < 0x10000 then escapedUnit n
    else
      escapedUnit (0xD800 + (n - 0x10000) / 0x400) ++ escapedUnit (0xDC00 + (n - 0x10000) % 0x400)

/-- A string. -/
def string (text : List Char) : List Char := '"' :: text.flatMap stringChar ++ ['"']

/-- A double-precision number. -/
def binary64 : Binary64 → List Char
  | .nan => "NaN".toList
  | .infinite negative => if negative then "-Infinity".toList else "Infinity".toList
  | x => x.text

/-- Why a value has no text in JSON. -/
inductive Unprintable where
  /-- Its kind stands outside JSON. -/
  | unsupported
  /-- It is a moment that the calendar does not have by the clock of universal time. -/
  | outsideCalendar
deriving DecidableEq, Repr

/-- Whether a name sorts before another one or at its place. -/
def nameLe (a b : String × List Char) : Bool := !decide (b.1 < a.1)

mutual

/-- The compact text of a value, names in ascending order. A date is written as in message
headers, a decimal number as a string; raw bytes and addresses cannot be written. -/
def compact : Value → Except Unprintable (List Char)
  | .null => .ok "null".toList
  | .bool b => .ok (if b then "true".toList else "false".toList)
  | .int n => .ok (integerText n)
  | .float x => .ok (binary64 x)
  | .decimal d => .ok (string d.text)
  | .text s => .ok (string s.toList)
  | .date d => .ok (string (Moment.headerText ⟨Moment.midnight d, none, false⟩))
  | .moment m =>
    match m.toUtc? with
    | some m => .ok (string m.headerText)
    | none => .error .outsideCalendar
  | .bytes .. => .error .unsupported
  | .zone _ => .error .unsupported
  | .address _ => .error .unsupported
  | .list items => do
    let texts ← compactItems items
    pure ('[' :: join [','] texts ++ [']'])
  | .map entries => do
    let texts ← compactEntries entries
    let sorted := texts.mergeSort nameLe
    pure ('\x7b' :: join [','] (sorted.map fun (name, text) =>
      string name.toList ++ ':' :: text) ++ ['\x7d'])

/-- The compact texts of some values. -/
def compactItems : List Value → Except Unprintable (List (List Char))
  | [] => .ok []
  | item :: rest => do
    let text ← compact item
    let texts ← compactItems rest
    pure (text :: texts)

/-- The compact texts of some entries, with their names. -/
def compactEntries : List (String × Value) → Except Unprintable (List (String × List Char))
  | [] => .ok []
  | (name, item) :: rest => do
    let text ← compact item
    let texts ← compactEntries rest
    pure ((name, text) :: texts)

end

end AuditTrail.Json
