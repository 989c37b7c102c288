import AuditTrail.Value
/-!
Reading JSON text into values. The numbers `NaN` and `Infinity` are accepted, the last of repeated
names counts, and half of a surrogate pair alone reads as the replacement character.
-/

namespace AuditTrail.Json

open Text

/-- Why a text holds no value. -/
inductive Trouble where
  /-- The text is not JSON. -/
  | malformed
  /-- A whole number has too many digits. -/
  | longNumber
  /-- Lists and maps are nested too deeply. -/
  | tooDeep
deriving DecidableEq, Repr

/-- Space between the parts of a JSON text. -/
def isSpace (c : Char) : Bool := c == ' ' || c == '\t' || c == '\n' || c == '\r'

/-- The text after leading space. -/
def skipSpace (text : List Char) : List Char := text.dropWhile isSpace

/-- A number of four hexadecimal digits, and what follows it. -/
def hex4? : List Char → Option (Nat × List Char)
  | a :: b :: c :: d :: rest => do
    let w ← Address.hexValue? a
    let x ← Address.hexValue? b
    let y ← Address.hexValue? c
    let z ← Address.hexValue? d
    pure (((w * 16 + x) * 16 + y) * 16 + z, rest)
  | _ => none

/-- The first half of a surrogate pair. -/
def isHighSurrogate (n : Nat) : Bool := 0xD800 ≤ n && n < 0xDC00

/-- The second half of a surrogate pair. -/
def isLowSurrogate (n : Nat) : Bool := 0xDC00 ≤ n && n < 0xE000

/-- The character of a code unit that stands alone. -/
def unitChar (n : Nat) : Char :=
  if 0xD800 ≤ n && n < 0xE000 then Utf8.replacement else Char.ofNat n

/-- The character that an escape with a code unit writes, and what follows it. -/
def escapedUnit? (text : List Char) : Option (Char × List Char) := do
  let (high, rest) ← hex4? text
  if isHighSurrogate high then
    match rest with
    | '\\' :: 'u' :: more =>
      match hex4? more with
      | some (low, rest') =>
        if isLowSurrogate low then
          pure (Char.ofNat (0x10000 + (high - 0xD800) * 0x400 + (low - 0xDC00)), rest')
        else pure (unitChar high, rest)
      | none => pure (unitChar high, rest)
    | _ => pure (unitChar high, rest)
  else pure (unitChar high, rest)

/-- The character that a one-letter escape writes. -/
def simpleEscape? : Char → Option Char
  | '"' => some '"'
  | '\\' => some '\\'
  | '/' => some '/'
  | 'b' => some (Char.ofNat 8)
  | 'f' => some (Char.ofNat 12)
  | 'n' => some '\n'
  | 'r' => some '\r'
  | 't' => some '\t'
  | _ => none

/-- The characters up to a closing quote, in reverse order, and what follows it. -/
def stringTail? : Nat → List Char → List Char → Option (List Char × List Char)
  | 0, _, _ => none
  | fuel + 1, text, done =>
    match text with
    | [] => none
    | '"' :: rest => some (done, rest)
    | '\\' :: 'u' :: rest => do
      let (c, rest) ← escapedUnit? rest
      stringTail? fuel rest (c :: done)
    | '\\' :: c :: rest => do
      let c ← simpleEscape? c
      stringTail? fuel rest (c :: done)
    | c :: rest => if c.toNat < 0x20 || c == '\\' then none else stringTail? fuel rest (c :: done)

/-- The string whose opening quote has been read, and what follows it. -/
def string? (text : List Char) : Option (String × List Char) := do
  let (reversed, rest) ← stringTail? (text.length + 1) text []
  pure (String.ofList reversed.reverse, rest)

/-- The digits of a whole part: a zero alone, or digits that begin with no zero. -/
def wholeDigits (text : List Char) : List Char :=
  match text with
  | '0' :: _ => ['0']
  | _ => text.takeWhile Char.isDigit

/-- The digits after a point, if a point and a digit follow. -/
def fractionDigits : List Char → List Char
  | '.' :: rest => rest.takeWhile Char.isDigit
  | _ => []

/-- The length of an exponent part, and the exponent. -/
def exponentPart (text : List Char) : Nat × Int :=
  match text with
  | c :: rest =>
    if c == 'e' || c == 'E' then
      let (negative, digits) := splitSign rest
      let signLength := rest.length - digits.length
      let digits := digits.takeWhile Char.isDigit
      if digits.isEmpty then (0, 0)
      else
        let n : Int := ofDigits (digits.map Scientific.plainValue)
        (1 + signLength + digits.length, if negative then -n else n)
    else (0, 0)
  | [] => (0, 0)

/-- The number at the start of a text, and what follows it. -/
def number? (text : List Char) : Except Trouble (Value × List Char) :=
  let negative := text.head? == some '-'
  let body := if negative then text.tail else text
  let whole := wholeDigits body
  if whole.isEmpty then .error .malformed
  else
    let rest := body.drop whole.length
    let fraction := fractionDigits rest
    let rest := if fraction.isEmpty then rest else rest.drop (fraction.length + 1)
    let (length, exponent) := exponentPart rest
    if fraction.isEmpty && length == 0 then
      if maxReadDigits < whole.length then .error .longNumber
      else
        let n : Int := ofDigits (whole.map Scientific.plainValue)
        .ok (.int (if negative then -n else n), rest)
    else
      let digits := ofDigits ((whole ++ fraction).map Scientific.plainValue)
      .ok (.float (Binary64.ofDecimal negative digits (exponent - fraction.length)),
        rest.drop length)

/-- The words that are values, each with its value. -/
def wordValues : List (List Char × Value) :=
  [("null".toList, .null), ("true".toList, .bool true), ("false".toList, .bool false),
    ("NaN".toList, .float .nan), ("Infinity".toList, .float (.infinite false)),
    ("-Infinity".toList, .float (.infinite true))]

/-- The word at the start of a text with its value, and what follows it. -/
def word? (text : List Char) : Option (Value × List Char) :=
  (wordValues.find? fun entry => entry.1.isPrefixOf text).map fun entry =>
    (entry.2, text.drop entry.1.length)

mutual

/-- The value at the start of a text, and what follows it. -/
def value : Nat → Nat → List Char → Except Trouble (Value × List Char)
  | 0, _, _ => .error .malformed
  | fuel + 1, depth, text =>
    match text with
    | '"' :: rest =>
      match string? rest with
      | some (s, rest) => .ok (.text s, rest)
      | none => .error .malformed
    | '[' :: rest =>
      match depth with
      | 0 => .error .tooDeep
      | depth + 1 =>
        match skipSpace rest with
        | ']' :: rest => .ok (.list [], rest)
        | rest => do
          let (items, rest) ← items fuel depth rest
          pure (.list items, rest)
    | '\x7b' :: rest =>
      match depth with
      | 0 => .error .tooDeep
      | depth + 1 =>
        match skipSpace rest with
        | '\x7d' :: rest => .ok (.map [], rest)
        | rest => do
          let (entries, rest) ← entries fuel depth [] rest
          pure (.map entries, rest)
    | _ =>
      match word? text with
      | some found => .ok found
      | none => number? text

/-- The items of a list up to its closing bracket. -/
def items : Nat → Nat → List Char → Except Trouble (List Value × List Char)
  | 0, _, _ => .error .malformed
  | fuel + 1, depth, text => do
    let (item, rest) ← value fuel depth text
    match skipSpace rest with
    | ']' :: rest => pure ([item], rest)
    | ',' :: rest =>
      let (more, rest) ← items fuel depth (skipSpace rest)
      pure (item :: more, rest)
    | _ => throw .malformed

/-- The entries of a map up to its closing brace, put into those before them. -/
def entries : Nat → Nat → List (String × Value) → List Char →
    Except Trouble (List (String × Value) × List Char)
  | 0, _, _, _ => .error .malformed
  | fuel + 1, depth, before, text =>
    match text with
    | '"' :: rest =>
      match string? rest with
      | none => .error .malformed
      | some (name, rest) =>
        match skipSpace rest with
        | ':' :: rest => do
          let (item, rest) ← value fuel depth (skipSpace rest)
          let before := Value.insert name item before
          match skipSpace rest with
          | '\x7d' :: rest => pure (before, rest)
          | ',' :: rest => entries fuel depth before (skipSpace rest)
          | _ => throw .malformed
        | _ => .error .malformed
    | _ => .error .malformed

end

/-- The value that a whole text writes, where lists and maps may be nested as deeply as there is
room for. -/
def read (room : Nat) (text : List Char) : Except Trouble Value := do
  let (v, rest) ← value (2 * text.length + 2) room (skipSpace text)
  if (skipSpace rest).isEmpty then pure v else throw .malformed

end AuditTrail.Json
