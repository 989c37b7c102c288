import AuditTrail.Number.Rounding
import Mathlib.Algebra.Order.Field.Rat
import Mathlib.Data.Rat.Cast.Order
import Mathlib.Tactic.Linarith

/-!
# Rounding to the nearest whole number

A rounded quotient is less than a half away, or it is even and exactly a half away.  Whole numbers
are one apart, so no other one is nearer, and another one is as near only when the rounded one is
even.
-/

namespace AuditTrail

/-- The distances to two whole numbers come to at least one together. -/
theorem one_le_abs_sub_add_abs_sub {first second : ℤ} (different : first ≠ second) (exact : ℚ) :
    1 ≤ |first - exact| + |second - exact| := by
  have apart : (1 : ℚ) ≤ |(first : ℚ) - second| := by
    exact_mod_cast Int.one_le_abs (sub_ne_zero.mpr different)
  rw [abs_sub_comm (second : ℚ)]
  exact apart.trans (abs_sub_le _ exact _)

variable (num : ℕ) {den : ℕ}

theorem quotient_eq_whole_add (positive : 0 < den) :
    (num : ℚ) / den = (num / den : ℕ) + (num % den : ℕ) / den := by
  have above : (den : ℚ) ≠ 0 := Nat.cast_ne_zero.mpr positive.ne'
  rw [div_eq_iff above, add_mul, div_mul_cancel₀ _ above]
  exact_mod_cast (Nat.div_add_mod' num den).symm

theorem abs_whole_sub (positive : 0 < den) :
    |((num / den : ℕ) : ℚ) - num / den| = (num % den : ℕ) / den := by
  rw [quotient_eq_whole_add num positive, sub_add_cancel_left, abs_neg]
  exact abs_of_nonneg (div_nonneg (Nat.cast_nonneg _) (Nat.cast_nonneg _))

theorem abs_next_sub (positive : 0 < den) :
    |((num / den + 1 : ℕ) : ℚ) - num / den| = 1 - (num % den : ℕ) / den := by
  have less : ((num % den : ℕ) : ℚ) / den ≤ 1 :=
    div_le_one_of_le₀ (Nat.cast_le.mpr (Nat.mod_lt num positive).le) (Nat.cast_nonneg _)
  rw [quotient_eq_whole_add num positive, Nat.cast_succ, add_sub_add_left_eq_sub]
  exact abs_of_nonneg (sub_nonneg.mpr less)

/-- A rounded quotient is less than a half away, or it is even and a half away. -/
theorem abs_roundHalfEven_sub (positive : 0 < den) :
    |(roundHalfEven num den : ℚ) - num / den| < 1 / 2 ∨
      |(roundHalfEven num den : ℚ) - num / den| = 1 / 2 ∧ Even (roundHalfEven num den) := by
  have above : (0 : ℚ) < den := Nat.cast_pos.mpr positive
  rw [roundHalfEven]
  split
  · next below =>
      have part : ((num % den : ℕ) : ℚ) / den < 1 / 2 := by
        rw [div_lt_div_iff₀ above two_pos]
        exact_mod_cast (by omega : num % den * 2 < 1 * den)
      exact .inl ((abs_whole_sub num positive).trans_lt part)
  · split
    · next beyond =>
        have part : 1 / 2 < ((num % den : ℕ) : ℚ) / den := by
          rw [div_lt_div_iff₀ two_pos above]
          exact_mod_cast (by omega : 1 * den < num % den * 2)
        rw [abs_next_sub num positive]
        exact .inl (by linarith)
    · have part : ((num % den : ℕ) : ℚ) / den = 1 / 2 := by
        rw [div_eq_div_iff above.ne' two_ne_zero]
        exact_mod_cast (by omega : num % den * 2 = 1 * den)
      split
      · next even => exact .inr ⟨(abs_whole_sub num positive).trans part, Nat.even_iff.mpr even⟩
      · next odd =>
          rw [abs_next_sub num positive, part]
          exact .inr ⟨by norm_num, Nat.even_iff.mpr (by omega)⟩

/-- No whole number is nearer to a quotient than the rounded one. -/
theorem abs_roundHalfEven_sub_le (positive : 0 < den) (other : ℤ) :
    |(roundHalfEven num den : ℚ) - num / den| ≤ |(other : ℚ) - num / den| := by
  rcases eq_or_ne other (roundHalfEven num den) with rfl | different
  · rw [Int.cast_natCast]
  · have apart := one_le_abs_sub_add_abs_sub different (num / den)
    rw [Int.cast_natCast] at apart
    rcases abs_roundHalfEven_sub num positive with half | ⟨half, -⟩ <;> linarith

variable {num}

theorem roundHalfEven_le_of_le (positive : 0 < den) {bound : ℕ} (most : (num : ℚ) / den ≤ bound) :
    roundHalfEven num den ≤ bound := by
  have nearest := abs_roundHalfEven_sub_le num positive bound
  rw [Int.cast_natCast, abs_of_nonneg (sub_nonneg.mpr most)] at nearest
  have closer := (le_abs_self _).trans nearest
  exact_mod_cast (sub_le_sub_iff_right _).mp closer

theorem le_roundHalfEven_of_le (positive : 0 < den) {bound : ℕ} (least : bound ≤ (num : ℚ) / den) :
    bound ≤ roundHalfEven num den := by
  have nearest := abs_roundHalfEven_sub_le num positive bound
  rw [Int.cast_natCast, abs_of_nonpos (sub_nonpos.mpr least)] at nearest
  have closer := neg_le_neg_iff.mp ((neg_le_abs _).trans nearest)
  exact_mod_cast (sub_le_sub_iff_right _).mp closer

/-- Where another whole number is as near, the rounded one is even. -/
theorem even_roundHalfEven_of_tie (positive : 0 < den) {other : ℤ}
    (different : other ≠ roundHalfEven num den)
    (tie : |(other : ℚ) - num / den| = |(roundHalfEven num den : ℚ) - num / den|) :
    Even (roundHalfEven num den) := by
  have apart := one_le_abs_sub_add_abs_sub different (num / den)
  rw [Int.cast_natCast] at apart
  rcases abs_roundHalfEven_sub num positive with half | ⟨-, even⟩
  · linarith
  · exact even

end AuditTrail
