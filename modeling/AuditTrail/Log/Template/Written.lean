import AuditTrail.Log.Template.Basic
import AuditTrail.Value
/-!
Values in the forms of marks, and their padding.
-/

namespace AuditTrail.Log

open Text

/-- The whole number that a value is. -/
def wholeNumber? : Value → Option Int
  | .int n => some n
  | .bool b => some (if b then 1 else 0)
  | _ => none

/-- A value as it is written, before padding. -/
structure Written where
  /-- The sign and the marker of the base. -/
  lead : List Char
  /-- The rest. -/
  body : List Char
  /-- Whether zeros may stand between the two. -/
  isNumber : Bool
deriving DecidableEq, Repr

/-- A text cut to a precision. -/
def Written.ofText (precision : Option Nat) (text : List Char) : Written :=
  ⟨[], match precision with | some n => text.take n | none => text, false⟩

/-- A value with its padding; a negative width stands for padding behind the value. -/
def Written.padded (flags : Flags) (width : Int) (written : Written) : List Char :=
  let missing := width.natAbs - (written.lead.length + written.body.length)
  if flags.left || width < 0 then written.lead ++ written.body ++ List.replicate missing ' '
  else if flags.zeros && written.isNumber then
    written.lead ++ List.replicate missing '0' ++ written.body
  else List.replicate missing ' ' ++ written.lead ++ written.body

namespace Flags

/-- The sign of a number. -/
def sign (flags : Flags) (negative : Bool) : List Char :=
  if negative then ['-'] else if flags.plus then ['+'] else if flags.space then [' '] else []

/-- A whole number with at least as many digits as the precision says. -/
def whole (flags : Flags) (base : Nat) (marker : List Char) (precision : Option Nat) (n : Int) :
    Written :=
  let digits := Nat.toDigits base n.natAbs
  ⟨flags.sign (n < 0) ++ (if flags.full then marker else []),
    List.replicate (precision.getD 0 - digits.length) '0' ++ digits, true⟩

/-- A number with as many digits as the precision says, or six. -/
def real (flags : Flags) (style : Binary64.Style) (precision : Option Nat) (x : Binary64) :
    Written :=
  ⟨flags.sign x.isNegative, x.styledText style flags.full (precision.getD 6), true⟩

end Flags

/-- A written number in upper case. -/
def Written.raised (upper : Bool) (written : Written) : Written :=
  if upper then
    { written with lead := written.lead.map Char.toUpper, body := written.body.map Char.toUpper }
  else written

/-- A value that is text or bytes, which are not read as numbers. -/
def isTextual : Value → Bool
  | .text _ => true
  | .bytes .. => true
  | _ => false

/-- The whole part of a value that is a number, if it has no more digits than are read. -/
def wholePart? (value : Value) : Option Int :=
  if isTextual value then none
  else value.toInt.toOption.filter fun n => n.natAbs < Nat.pow 10 maxReadDigits

/-- The double-precision number that a number is. -/
def realNumber? (value : Value) : Option Binary64 :=
  if isTextual value then none else value.toBinary64.toOption

/-- The character of a code point. -/
def characterOf? (n : Int) : Option Char :=
  if 0 ≤ n && n.toNat.isValidChar then some (Char.ofNat n.toNat) else none

/-- The character that a value is. -/
def character? : Value → Option Char
  | .text s =>
    match s.toList with
    | [c] => some c
    | _ => none
  | value => (wholeNumber? value).bind characterOf?

/-- A text in ASCII: all other characters are written by their code points. -/
def asciiText (text : List Char) : List Char :=
  text.flatMap fun c => if c.toNat < 0x80 then [c] else escapedPoint c.toNat

/-- A value in a form. -/
def Form.write? (form : Form) (flags : Flags) (precision : Option Nat) (value : Value) :
    Option Written :=
  match form with
  | display => some (.ofText precision value.display)
  | literal => some (.ofText precision value.literal)
  | ascii => some (.ofText precision (asciiText value.literal))
  | character => (character? value).map fun c => .ofText none [c]
  | decimal => (wholePart? value).map (flags.whole 10 [] precision)
  | octal => (wholeNumber? value).map (flags.whole 8 ['0', 'o'] precision)
  | hexadecimal upper =>
    (wholeNumber? value).map fun n => (flags.whole 16 ['0', 'x'] precision n).raised upper
  | real style upper =>
    (realNumber? value).map fun x => (flags.real style precision x).raised upper

end AuditTrail.Log
