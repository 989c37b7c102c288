import AuditTrail.Number.Binary64
/-!
The shortest decimal text of a double-precision number: of the decimals that read back as the
number, one with the fewest digits, and of those the nearest.
-/

namespace AuditTrail.Binary64

/-- A decimal `digits · 10 ^ exponent`. -/
structure DecimalDigits where
  /-- All digits as one whole number. -/
  digits : Nat
  /-- The power of ten of the last digit. -/
  exponent : Int
deriving DecidableEq, Repr

/-- Whether a decimal reads back as a positive number. -/
def readsBack (significand : Nat) (exponent : Int) (d : DecimalDigits) : Bool :=
  ofDecimal false d.digits d.exponent == finite false significand exponent

/-- The place of the leading digit of a positive quotient: the number of digits before the point,
or minus the number of zeros after it. -/
def leadingPlace (num den : Nat) : Int :=
  if den ≤ num then (Nat.toDigits 10 (num / den)).length
  else
    let zeros : Int := ((Nat.toDigits 10 ((den - 1) / num)).length : Int) - 1
    let scaled := num * Nat.pow 10 zeros.toNat
    if den ≤ scaled * 10 then -zeros else -zeros - 1

/-- The decimal with the given number of digits that reads back as a positive quotient's number, if
one of the quotient's two neighbours does; the nearer one if both do, and the even one at a tie. -/
def decimalOfLength? (significand : Nat) (exponent : Int) (count : Nat) :
    Option DecimalDigits :=
  let num := significand * Nat.pow 2 exponent.toNat
  let den := Nat.pow 2 (-exponent).toNat
  let unit : Int := leadingPlace num den - count
  let scaledNum := num * Nat.pow 10 (-unit).toNat
  let scaledDen := den * Nat.pow 10 unit.toNat
  let below : DecimalDigits := ⟨scaledNum / scaledDen, unit⟩
  let above : DecimalDigits := ⟨scaledNum / scaledDen + 1, unit⟩
  let nearest : DecimalDigits := ⟨roundHalfEven scaledNum scaledDen, unit⟩
  if readsBack significand exponent nearest then some nearest
  else if readsBack significand exponent below then some below
  else if readsBack significand exponent above then some above
  else none

/-- The shortest decimal of a positive number; seventeen digits always suffice. -/
def shortestFrom (significand : Nat) (exponent : Int) : Nat → Nat → DecimalDigits
  | 0, _ => ⟨significand, 0⟩
  | fuel + 1, count =>
    match decimalOfLength? significand exponent count with
    | some d => d
    | none => shortestFrom significand exponent fuel (count + 1)

/-- The shortest decimal that reads back as a positive number. -/
def shortest (significand : Nat) (exponent : Int) : DecimalDigits :=
  shortestFrom significand exponent 17 1

/-- Drops the zeros at the end of the digits. -/
def trimZeros (digits : List Char) : List Char :=
  (digits.reverse.dropWhile (· == '0')).reverse

/-- A decimal exponent: a sign and at least two digits. -/
def exponentText (e : Int) : List Char :=
  let digits := Nat.toDigits 10 e.natAbs
  (if e < 0 then '-' else '+') :: (if digits.length < 2 then '0' :: digits else digits)

/-- The layout of the digits `0.d₁d₂… · 10 ^ place`: positional from one ten-thousandth up to
below ten to the sixteenth, with a digit on both sides of the point; else with an exponent. -/
def layout (digits : List Char) (place : Int) : List Char :=
  if place < -3 ∨ 16 < place then
    let mantissa := match digits with
      | [] => []
      | [d] => [d]
      | d :: rest => d :: '.' :: rest
    mantissa ++ 'e' :: exponentText (place - 1)
  else if place ≤ 0 then
    '0' :: '.' :: List.replicate (-place).toNat '0' ++ digits
  else
    let whole := digits.take place.toNat
    let padding := List.replicate (place.toNat - digits.length) '0'
    let fraction := digits.drop place.toNat
    whole ++ padding ++ '.' :: (if fraction.isEmpty then ['0'] else fraction)

/-- The text of a number. -/
def text : Binary64 → List Char
  | nan => "nan".toList
  | infinite negative => if negative then "-inf".toList else "inf".toList
  | finite negative significand exponent =>
    let body :=
      if significand = 0 then "0.0".toList
      else
        let d := shortest significand exponent
        let digits := Nat.toDigits 10 d.digits
        layout (trimZeros digits) (d.exponent + digits.length)
    if negative then '-' :: body else body

end AuditTrail.Binary64
