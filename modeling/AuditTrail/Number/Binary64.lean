import AuditTrail.Number.Rounding
/-!
Binary floating-point numbers of 53 significant bits, kept exactly. Every operation forms the exact
rational result and rounds it once, to the nearest representable number and a tie to the even
significand.
-/

namespace AuditTrail

/-- A double-precision number. A finite one has the value `± significand · 2 ^ exponent`, with
`significand < 2 ^ 53` and `exponent ≥ -1074`, and is kept with the least such exponent. -/
inductive Binary64 where
  | finite (negative : Bool) (significand : Nat) (exponent : Int)
  | infinite (negative : Bool)
  | nan
deriving DecidableEq, Repr, Inhabited

namespace Binary64

/-- The least exponent. -/
def minExponent : Int := -1074

/-- The greatest exponent. -/
def maxExponent : Int := 971

/-- The number zero of either sign. -/
def zero (negative : Bool) : Binary64 := finite negative 0 minExponent

/-- The power of two that a positive quotient is measured in: its significand then has 53 bits,
unless the quotient is below the least normal number. -/
def unitExponent (num den : Nat) : Int :=
  let e : Int := (num.log2 : Int) - den.log2 - 53
  let e := if den * Nat.pow 2 (e.toNat + 53) ≤ num * Nat.pow 2 (-e).toNat then e + 1 else e
  max e minExponent

/-- A significand of at most 53 bits, or the first number beyond them, at an exponent. -/
def pack (negative : Bool) (significand : Nat) (exponent : Int) : Binary64 :=
  let (significand, exponent) :=
    if significand = Nat.pow 2 53 then (Nat.pow 2 52, exponent + 1) else (significand, exponent)
  if maxExponent < exponent then infinite negative else finite negative significand exponent

/-- The number nearest to a quotient. -/
def ofRatio (negative : Bool) (num den : Nat) : Binary64 :=
  if num = 0 then zero negative
  else
    let e := unitExponent num den
    pack negative (roundHalfEven (num * Nat.pow 2 (-e).toNat) (den * Nat.pow 2 e.toNat)) e

/-- The number nearest to a signed quotient; nothing is left of a zero's sign. -/
def ofIntRatio (num : Int) (den : Nat) : Binary64 := ofRatio (num < 0) num.natAbs den

/-- The number nearest to a whole number. -/
def ofInt (n : Int) : Binary64 := ofIntRatio n 1

/-- The number nearest to `digits · 10 ^ exponent`. Exponents that are far out of range are
answered without forming the power. -/
def ofDecimal (negative : Bool) (digits : Nat) (exponent : Int) : Binary64 :=
  if digits = 0 then zero negative
  else
    let places : Int := ((Nat.toDigits 10 digits).length : Int) + exponent
    if 310 < places then infinite negative
    else if places < -330 then zero negative
    else ofRatio negative (digits * Nat.pow 10 exponent.toNat) (Nat.pow 10 (-exponent).toNat)

/-- The exact value as a quotient, when there is one. -/
def toRatio? : Binary64 → Option (Int × Nat)
  | finite negative significand exponent =>
    let m : Int := if negative then -(significand : Int) else significand
    some (m * Nat.pow 2 exponent.toNat, Nat.pow 2 (-exponent).toNat)
  | _ => none

/-- The opposite number. -/
def neg : Binary64 → Binary64
  | finite negative significand exponent => finite (!negative) significand exponent
  | infinite negative => infinite (!negative)
  | nan => nan

/-- The sign bit. -/
def isNegative : Binary64 → Bool
  | finite negative _ _ => negative
  | infinite negative => negative
  | nan => false

/-- A zero of either sign. -/
def isZero : Binary64 → Bool
  | finite _ significand _ => significand == 0
  | _ => false

/-- The sum, rounded once. Two zeros of one sign keep it; any other zero sum is positive. -/
def add : Binary64 → Binary64 → Binary64
  | nan, _ => nan
  | _, nan => nan
  | infinite a, infinite b => if a = b then infinite a else nan
  | infinite a, _ => infinite a
  | _, infinite b => infinite b
  | finite a m e, finite b n f =>
    match (finite a m e).toRatio?, (finite b n f).toRatio? with
    | some (p, q), some (r, s) =>
      let num := p * s + r * q
      if num = 0 then zero (a && b) else ofIntRatio num (q * s)
    | _, _ => nan

/-- The difference, rounded once. -/
def sub (x y : Binary64) : Binary64 := add x y.neg

/-- The product, rounded once. -/
def mul : Binary64 → Binary64 → Binary64
  | nan, _ => nan
  | _, nan => nan
  | infinite a, y => if y.isZero then nan else infinite (a != y.isNegative)
  | x, infinite b => if x.isZero then nan else infinite (x.isNegative != b)
  | finite a m e, finite b n f =>
    let g := e + f
    ofRatio (a != b) (m * n * Nat.pow 2 g.toNat) (Nat.pow 2 (-g).toNat)

/-- The quotient by a positive whole number, rounded once. -/
def divNat (x : Binary64) (d : Nat) : Binary64 :=
  match x with
  | finite a m e => ofRatio a (m * Nat.pow 2 e.toNat) (Nat.pow 2 (-e).toNat * d)
  | other => other

/-- The whole part, toward zero. -/
def truncate? (x : Binary64) : Option Int := x.toRatio?.map fun (num, den) => num.tdiv den

/-- The least whole number that is not below. -/
def ceil? (x : Binary64) : Option Int := x.toRatio?.map fun (num, den) => -((-num) / (den : Int))

/-- Whether the absolute value reaches a whole number. -/
def absReaches (x : Binary64) (bound : Nat) : Bool :=
  match x with
  | nan => false
  | infinite _ => true
  | finite .. => match x.toRatio? with
    | some (num, den) => bound * den ≤ num.natAbs
    | none => false

/-- A number that is neither infinite nor undefined. -/
def isFinite : Binary64 → Bool
  | finite .. => true
  | _ => false

end Binary64

end AuditTrail
