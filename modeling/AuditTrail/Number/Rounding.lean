/-!
Rounding a quotient to the nearest whole number, a half going to the even neighbour.
-/

namespace AuditTrail

/-- The whole number nearest to a quotient; a half goes to the even neighbour. -/
def roundHalfEven (num den : Nat) : Nat :=
  let q := num / den
  let r := num % den
  if 2 * r < den then q
  else if den < 2 * r then q + 1
  else if q % 2 = 0 then q else q + 1

/-- Rounding a signed quotient to the nearest whole number, a half to the even neighbour. -/
def roundHalfEvenInt (num : Int) (den : Nat) : Int :=
  if num < 0 then -(roundHalfEven num.natAbs den : Int) else roundHalfEven num.natAbs den

theorem le_roundHalfEven (num den : Nat) : num / den ≤ roundHalfEven num den := by
  simp only [roundHalfEven]
  split
  · omega
  · split
    · omega
    · split <;> omega

theorem roundHalfEven_le (num den : Nat) : roundHalfEven num den ≤ num / den + 1 := by
  simp only [roundHalfEven]
  split
  · omega
  · split
    · omega
    · split <;> omega

/-- A quotient that is whole already stays. -/
theorem roundHalfEven_mul (q den : Nat) (h : 0 < den) : roundHalfEven (q * den) den = q := by
  simp [roundHalfEven, Nat.mul_div_cancel q h, h]

end AuditTrail
