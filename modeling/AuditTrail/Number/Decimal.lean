import AuditTrail.Number.Scientific
/-!
Decimal numbers that keep the digits they were written with.
-/

namespace AuditTrail

open Text

/-- A decimal number. The digits of a finite one are kept with their exponent, so that `1.50` and
`1.5` differ in text. -/
inductive Decimal where
  | finite (negative : Bool) (digits : Nat) (exponent : Int)
  | infinite (negative : Bool)
  | nan (negative signaling : Bool) (payload : List Char)
deriving DecidableEq, Repr

namespace Decimal

/-- The decimal number that a text writes. -/
def read? (text : List Char) : Option Decimal := do
  let body := ((trim text).filter (· != '_')).map Scientific.plainDigit
  let (negative, body) := splitSign body
  let word := body.map Char.toLower
  if Scientific.infinityWords.contains word then pure (.infinite negative)
  else if "snan".toList.isPrefixOf word && (word.drop 4).all Char.isDigit then
    pure (.nan negative true ((word.drop 4).dropWhile (· == '0')))
  else if "nan".toList.isPrefixOf word && (word.drop 3).all Char.isDigit then
    pure (.nan negative false ((word.drop 3).dropWhile (· == '0')))
  else
    let (digits, exponent) ← Scientific.unsigned? body
    pure (.finite negative digits exponent)

/-- The text of a finite number without its sign: positional while the exponent is not positive
and the leading digit is at most six places after the point, else with an exponent. -/
def unsignedText (digits : Nat) (exponent : Int) : List Char :=
  let ds := Nat.toDigits 10 digits
  let leading : Int := exponent + ds.length
  if exponent ≤ 0 ∧ -6 < leading then
    if exponent = 0 then ds
    else if leading ≤ 0 then '0' :: '.' :: List.replicate (-leading).toNat '0' ++ ds
    else ds.take leading.toNat ++ '.' :: ds.drop leading.toNat
  else
    let mantissa := match ds with
      | d :: rest => if rest.isEmpty then [d] else d :: '.' :: rest
      | [] => []
    let e := leading - 1
    mantissa ++ 'E' :: (if e < 0 then '-' else '+') :: Nat.toDigits 10 e.natAbs

/-- A sign before a text. -/
def signed (negative : Bool) (text : List Char) : List Char :=
  if negative then '-' :: text else text

/-- The text of a decimal number. -/
def text : Decimal → List Char
  | finite negative digits exponent => signed negative (unsignedText digits exponent)
  | infinite negative => signed negative "Infinity".toList
  | nan negative signaling payload =>
    signed negative ((if signaling then "sNaN".toList else "NaN".toList) ++ payload)

/-- A zero of either sign. -/
def isZero : Decimal → Bool
  | finite _ digits _ => digits == 0
  | _ => false

/-- The whole part of a finite number, toward zero. -/
def truncated (negative : Bool) (digits : Nat) (exponent : Int) : Int :=
  let n := digits * Nat.pow 10 exponent.toNat / Nat.pow 10 (-exponent).toNat
  if negative then -(n : Int) else n

end Decimal

end AuditTrail
