import AuditTrail.Number.Integer
import AuditTrail.Number.Shortest
/-!
The text of a double-precision number with a given number of digits. The exact value is rounded
once, a half going to the even neighbour.
-/

namespace AuditTrail.Binary64

/-- Where a text has its point, and what its number of digits counts. -/
inductive Style where
  /-- The point in its place; the digits after it are counted. -/
  | positional
  /-- The point behind the first digit, and an exponent; the digits after it are counted. -/
  | scientific
  /-- Positional, but with an exponent when the number is small or has more digits before the point
  than asked for; the digits from the first one on are counted. -/
  | general
deriving DecidableEq, Repr

/-- A quotient's digits before the point and a number of digits after it. -/
def digitsAround (num den places : Nat) : List Char × List Char :=
  let digits := padded (places + 1) (roundHalfEven (num * Nat.pow 10 places) den)
  digits.splitAt (digits.length - places)

/-- A quotient's first digit and a number of digits after it, as a whole number, and the exponent of
the first digit. -/
def leadingDigits (num den places : Nat) : Nat × Int :=
  if num = 0 then (0, 0)
  else
    let exponent := leadingPlace num den - 1
    let unit := exponent - places
    let digits := roundHalfEven (num * Nat.pow 10 (-unit).toNat) (den * Nat.pow 10 unit.toNat)
    if digits = Nat.pow 10 (places + 1) then (Nat.pow 10 places, exponent + 1)
    else (digits, exponent)

/-- Digits on both sides of a point, which is left out when nothing follows it, unless the text is
to be full. -/
def pointed (full : Bool) (whole fraction : List Char) : List Char :=
  if fraction.isEmpty && !full then whole else whole ++ '.' :: fraction

/-- The text of a quotient. A general text that is not to be full has no zeros at its end. -/
def ratioText (style : Style) (full : Bool) (count num den : Nat) : List Char :=
  match style with
  | .positional =>
    let (whole, fraction) := digitsAround num den count
    pointed full whole fraction
  | .scientific =>
    let (digits, exponent) := leadingDigits num den count
    let (first, others) := (padded (count + 1) digits).splitAt 1
    pointed full first others ++ 'e' :: exponentText exponent
  | .general =>
    let count := max count 1
    let trimmed (digits : List Char) : List Char := if full then digits else trimZeros digits
    let (digits, exponent) := leadingDigits num den (count - 1)
    if -4 ≤ exponent ∧ exponent < count then
      let (whole, fraction) := digitsAround num den (count - 1 - exponent).toNat
      pointed full whole (trimmed fraction)
    else
      let (first, others) := (padded count digits).splitAt 1
      pointed full first (trimmed others) ++ 'e' :: exponentText exponent

/-- The text of a number's absolute value. -/
def styledText (style : Style) (full : Bool) (count : Nat) (x : Binary64) : List Char :=
  match x.toRatio? with
  | some (num, den) => ratioText style full count num.natAbs den
  | none => if x = nan then "nan".toList else "inf".toList

end AuditTrail.Binary64
