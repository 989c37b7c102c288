import AuditTrail.Number.Places
/-!
Templates of messages. A template is text with marks, each of which begins with a percent sign and
says how a value is written: `%s` as its text, `%08.3f` as a number with three digits after the
point and zeros before it up to eight characters, `%(user)r` as the notation of the entry `user`.
-/

namespace AuditTrail.Log

/-- The flags of a mark. -/
structure Flags where
  /-- Padding stands behind the value. -/
  left : Bool
  /-- Numbers are padded with zeros. -/
  zeros : Bool
  /-- Numbers that are not negative have a plus sign. -/
  plus : Bool
  /-- Numbers without a sign have a space in its place. -/
  space : Bool
  /-- Whole numbers have the marker of their base, and other numbers keep their point. -/
  full : Bool
deriving DecidableEq, Repr

/-- A number that a mark asks for. -/
inductive Amount where
  /-- The number stands in the mark. -/
  | fixed (n : Nat)
  /-- The number is the next value. -/
  | taken
deriving DecidableEq, Repr

/-- How a value is written. -/
inductive Form where
  /-- The text of any value. -/
  | display
  /-- The notation of any value. -/
  | literal
  /-- The notation of any value, in ASCII. -/
  | ascii
  /-- The character that a code point or a text of one character is. -/
  | character
  /-- The whole part of a number. -/
  | decimal
  /-- A whole number in base eight. -/
  | octal
  /-- A whole number in base sixteen. -/
  | hexadecimal (upper : Bool)
  /-- A number of any kind. -/
  | real (style : Binary64.Style) (upper : Bool)
deriving DecidableEq, Repr

/-- A mark. -/
structure Mark where
  /-- The name of the entry that is written, unless it is the next value. -/
  name : Option String
  /-- The flags. -/
  flags : Flags
  /-- The least number of characters. -/
  width : Option Amount
  /-- The number of digits, or the greatest number of characters. -/
  precision : Option Amount
  /-- How the value is written. -/
  form : Form
deriving DecidableEq, Repr

/-- A piece of a template. -/
inductive Piece where
  /-- Text that stands for itself. -/
  | plain (text : List Char)
  /-- A mark. -/
  | mark (mark : Mark)
deriving DecidableEq, Repr

/-- A template. -/
abbrev Template := List Piece

end AuditTrail.Log
