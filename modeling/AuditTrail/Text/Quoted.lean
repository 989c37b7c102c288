import AuditTrail.Text.Printable
/-!
Quoted text in messages. The apostrophe encloses it unless it holds apostrophes and no double
quote; what is not shown as itself is written by its code point.
-/

namespace AuditTrail.Text

/-- The hexadecimal digits of a number, with leading zeros up to a width. -/
def hexDigits (width n : Nat) : List Char :=
  let digits := Nat.toDigits 16 n
  List.replicate (width - digits.length) '0' ++ digits

/-- The mark that encloses a text with or without apostrophes and double quotes. -/
def enclosingMark (hasApostrophe hasDoubleQuote : Bool) : Char :=
  if hasApostrophe && !hasDoubleQuote then '"' else '\''

/-- A code point written by two, four or eight hexadecimal digits. -/
def escapedPoint (point : Nat) : List Char :=
  if point < 0x100 then '\\' :: 'x' :: hexDigits 2 point
  else if point < 0x10000 then '\\' :: 'u' :: hexDigits 4 point
  else '\\' :: 'U' :: hexDigits 8 point

/-- One character inside the enclosing mark. -/
def quotedChar (mark : Char) (c : Char) : List Char :=
  if c == mark || c == '\\' then ['\\', c]
  else if c == '\n' then ['\\', 'n']
  else if c == '\r' then ['\\', 'r']
  else if c == '\t' then ['\\', 't']
  else if isPrintable c then [c]
  else escapedPoint c.toNat

/-- A text in quotes. -/
def quoted (text : List Char) : List Char :=
  let mark := enclosingMark (text.contains '\'') (text.contains '"')
  mark :: text.flatMap (quotedChar mark) ++ [mark]

/-- One byte inside the enclosing mark. -/
def quotedByte (mark : Char) (byte : UInt8) : List Char :=
  if byte < 0x80 then quotedChar mark (Char.ofNat byte.toNat) else escapedPoint byte.toNat

/-- Bytes in quotes, marked by a leading letter. -/
def quotedBytes (bytes : List UInt8) : List Char :=
  let mark := enclosingMark (bytes.contains 0x27) (bytes.contains 0x22)
  'b' :: mark :: bytes.flatMap (quotedByte mark) ++ [mark]

end AuditTrail.Text
