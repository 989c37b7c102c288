import AuditTrail.Number.Binary64
import AuditTrail.Number.Integer
/-!
Decimal numbers with an optional point and exponent, as text.
-/

namespace AuditTrail

open Text

namespace Scientific

/-- Underscores are dropped where a digit stands on both sides; elsewhere they make the text no
number. -/
def dropUnderscores? : Char → List Char → Option (List Char)
  | last, [] => if last == '_' then none else some []
  | last, c :: rest =>
    if c == '_' then
      if last.isDigit then dropUnderscores? c rest else none
    else if last == '_' && !c.isDigit then none
    else (dropUnderscores? c rest).map (c :: ·)

/-- Decimal digits of every script as the ASCII ones. -/
def plainDigit (c : Char) : Char :=
  match decimalValue? c with
  | some d => Char.ofNat (0x30 + d)
  | none => c

/-- The text around which blanks are dropped, with plain digits and without underscores. -/
def normal? (text : List Char) : Option (List Char) :=
  let body := (trimBy isBlankAroundNumber text).map plainDigit
  if body.contains '_' then dropUnderscores? ' ' body else some body

/-- The value of a plain digit. -/
def plainValue (c : Char) : Nat := c.toNat - 0x30

/-- An exponent part, which may be missing. -/
def exponent? : List Char → Option Int
  | [] => some 0
  | c :: rest =>
    if c == 'e' || c == 'E' then
      let (negative, digits) := splitSign rest
      if digits.isEmpty || !digits.all Char.isDigit then none
      else
        let n := ofDigits (digits.map plainValue)
        some (if negative then -(n : Int) else n)
    else none

/-- An unsigned decimal number with an optional point and exponent. -/
def unsigned? (text : List Char) : Option (Nat × Int) :=
  let whole := text.takeWhile Char.isDigit
  let rest := text.dropWhile Char.isDigit
  let (fraction, rest) := match rest with
    | '.' :: more => (more.takeWhile Char.isDigit, more.dropWhile Char.isDigit)
    | _ => ([], rest)
  if whole.isEmpty && fraction.isEmpty then none
  else do
    let e ← exponent? rest
    pure (ofDigits ((whole ++ fraction).map plainValue), e - fraction.length)

/-- The words for an infinite number. -/
def infinityWords : List (List Char) := ["inf".toList, "infinity".toList]

/-- The double-precision number that a text writes. -/
def readBinary64? (text : List Char) : Option Binary64 := do
  let (negative, body) := splitSign (← normal? text)
  let word := body.map Char.toLower
  if infinityWords.contains word then pure (.infinite negative)
  else if word == "nan".toList then pure .nan
  else
    let (digits, exponent) ← unsigned? body
    pure (Binary64.ofDecimal negative digits exponent)

end Scientific

end AuditTrail
