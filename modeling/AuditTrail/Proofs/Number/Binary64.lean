import AuditTrail.Number.Binary64
import AuditTrail.Proofs.Number.Rounding
import Mathlib.Algebra.Order.Field.Power
import Mathlib.Data.Int.Log
import Mathlib.Data.Rat.Floor
import Mathlib.Tactic.Positivity
import Mathlib.Tactic.Ring

/-!
# The double-precision number nearest to a quotient

A quotient is measured in a power of two.  Every double-precision number is a whole multiple of that
power, or it lies below the numbers of 53 bits that are measured in it, and the quotient among them.
So no double-precision number is nearer than the whole multiple that the quotient is rounded to.
-/

namespace AuditTrail.Binary64

/-- Whether a number is finite, with a significand and an exponent in range. -/
def IsProper : Binary64 → Prop
  | finite _ significand exponent =>
    significand < 2 ^ 53 ∧ minExponent ≤ exponent ∧ exponent ≤ maxExponent
  | _ => False

/-- Whether a number is kept with the least exponent that its value has. -/
def IsReduced : Binary64 → Prop
  | finite _ significand exponent => 2 ^ 52 ≤ significand ∨ exponent = minExponent
  | _ => False

/-- Whether the last bit of the significand is zero. -/
def IsEven : Binary64 → Prop
  | finite _ significand _ => Even significand
  | _ => False

/-- The exact value; zero where there is none. -/
def value (x : Binary64) : ℚ := x.toRatio?.elim 0 fun (num, den) => num / den

/-- A number that an exact one is correctly rounded to: none is nearer, and where another one is as
near, the significand is even. -/
structure IsNearest (x : Binary64) (exact : ℚ) : Prop where
  proper : x.IsProper
  reduced : x.IsReduced
  nearest {y : Binary64} (other : y.IsProper) : |x.value - exact| ≤ |y.value - exact|
  even {y : Binary64} (other : y.IsProper) (different : y.value ≠ x.value)
    (tie : |y.value - exact| = |x.value - exact|) : x.IsEven

theorem two_pow_toNat_div (exponent : ℤ) :
    (2 : ℚ) ^ exponent.toNat / 2 ^ (-exponent).toNat = 2 ^ exponent := by
  rw [← zpow_natCast, ← zpow_natCast, ← zpow_sub₀ two_ne_zero]
  congr 1
  omega

@[simp]
theorem value_finite (negative : Bool) (significand : ℕ) (exponent : ℤ) :
    (finite negative significand exponent).value =
      (if negative then -(significand : ℚ) else significand) * 2 ^ exponent := by
  rw [← two_pow_toNat_div, ← mul_div_assoc]
  cases negative <;> simp [value, toRatio?]

theorem ceil?_eq {x : Binary64} (proper : x.IsProper) : x.ceil? = some ⌈x.value⌉ := by
  cases x with
  | finite negative significand exponent =>
      simp only [ceil?, value, toRatio?, Option.map_some, Option.elim_some]
      rw [Rat.ceil_intCast_div_natCast]
  | _ => exact proper.elim

variable {significand : ℕ} {exponent : ℤ}

theorem pack_of_lt (small : significand < 2 ^ 53) (inRange : exponent ≤ maxExponent) :
    pack false significand exponent = finite false significand exponent := by
  rw [pack, if_neg (by exact small.ne)]
  exact if_neg inRange.not_gt

theorem pack_carry (inRange : exponent < maxExponent) :
    pack false (2 ^ 53) exponent = finite false (2 ^ 52) (exponent + 1) := by
  rw [pack, if_pos (by rfl)]
  exact if_neg (not_lt.mpr inRange)

theorem isProper_pack (most : significand ≤ 2 ^ 53) (least : minExponent ≤ exponent)
    (inRange : exponent < maxExponent) : (pack false significand exponent).IsProper := by
  rcases most.lt_or_eq with small | rfl
  · rw [pack_of_lt small inRange.le]
    exact ⟨small, least, inRange.le⟩
  · rw [pack_carry inRange]
    exact ⟨by norm_num, by omega, inRange⟩

theorem value_pack (most : significand ≤ 2 ^ 53) (inRange : exponent < maxExponent) :
    (pack false significand exponent).value = significand * 2 ^ exponent := by
  rcases most.lt_or_eq with small | rfl
  · simp [pack_of_lt small inRange.le]
  · rw [pack_carry inRange, value_finite, zpow_add_one₀ two_ne_zero]
    norm_num
    ring

theorem isReduced_pack (most : significand ≤ 2 ^ 53) (inRange : exponent < maxExponent)
    (full : 2 ^ 52 ≤ significand ∨ exponent = minExponent) :
    (pack false significand exponent).IsReduced := by
  rcases most.lt_or_eq with small | rfl
  · rw [pack_of_lt small inRange.le]
    exact full
  · rw [pack_carry inRange]
    exact .inl le_rfl

theorem isEven_pack (most : significand ≤ 2 ^ 53) (inRange : exponent < maxExponent)
    (even : Even significand) : (pack false significand exponent).IsEven := by
  rcases most.lt_or_eq with small | rfl
  · rw [pack_of_lt small inRange.le]
    exact even
  · rw [pack_carry inRange]
    exact ⟨2 ^ 51, by norm_num⟩

/-- A number is a multiple of a unit, or it is too small to take 53 bits in it. -/
theorem IsProper.multiple_or_below {y : Binary64} (proper : y.IsProper) (unit : ℤ) :
    (∃ multiple : ℤ, y.value = multiple * 2 ^ unit) ∨
      minExponent < unit ∧ y.value < 2 ^ (unit + 52) := by
  cases y with
  | finite negative significand exponent =>
      obtain ⟨small, least, -⟩ := proper
      rcases le_or_gt unit exponent with coarse | fine
      · refine .inl ⟨(if negative then -(significand : ℤ) else significand) *
          2 ^ (exponent - unit).toNat, ?_⟩
        have power : (2 : ℚ) ^ exponent = 2 ^ (exponent - unit).toNat * 2 ^ unit := by
          rw [← zpow_natCast, ← zpow_add₀ two_ne_zero]
          congr 1
          omega
        rw [value_finite, power, ← mul_assoc]
        cases negative <;> push_cast <;> rfl
      · refine .inr ⟨by omega, ?_⟩
        have most : (if negative then -(significand : ℚ) else significand) < 2 ^ (53 : ℤ) := by
          have below : (significand : ℚ) < 2 ^ (53 : ℤ) := by exact_mod_cast small
          split <;> linarith [significand.cast_nonneg (α := ℚ)]
        calc (finite negative significand exponent).value
            = (if negative then -(significand : ℚ) else significand) * 2 ^ exponent :=
              value_finite ..
          _ < 2 ^ (53 : ℤ) * 2 ^ exponent := by gcongr
          _ = 2 ^ (exponent + 53) := by rw [← zpow_add₀ two_ne_zero, add_comm]
          _ ≤ 2 ^ (unit + 52) := zpow_le_zpow_right₀ one_le_two (by omega)
  | _ => exact proper.elim

variable {num den : ℕ}

theorem measured_eq (num den : ℕ) (unit : ℤ) :
    ((num * Nat.pow 2 (-unit).toNat : ℕ) : ℚ) / (den * Nat.pow 2 unit.toNat : ℕ) =
      num / den / 2 ^ unit := by
  rw [← two_pow_toNat_div, div_div_eq_mul_div, div_mul_eq_mul_div, div_div, Nat.pow_eq, Nat.pow_eq]
  push_cast
  rfl

theorem measured_pos (positive : 0 < den) (unit : ℤ) : 0 < den * Nat.pow 2 unit.toNat :=
  Nat.mul_pos positive (Nat.two_pow_pos _)

theorem measured_le_iff (positive : 0 < den) (unit : ℤ) :
    den * Nat.pow 2 (unit.toNat + 53) ≤ num * Nat.pow 2 (-unit).toNat ↔
      (2 : ℚ) ^ (unit + 53) ≤ num / den := by
  have above : (0 : ℚ) < (den * Nat.pow 2 unit.toNat : ℕ) :=
    Nat.cast_pos.mpr (measured_pos positive unit)
  have apart : den * Nat.pow 2 (unit.toNat + 53) = 2 ^ 53 * (den * Nat.pow 2 unit.toNat) := by
    rw [Nat.pow_eq, Nat.pow_eq, pow_add]
    ring
  rw [zpow_add₀ two_ne_zero, mul_comm ((2 : ℚ) ^ unit), ← le_div_iff₀ (zpow_pos two_pos unit),
    ← measured_eq, le_div_iff₀ above, apart]
  exact_mod_cast Iff.rfl

/-- The logarithms of both numbers tell that of their quotient but for one. -/
theorem log2_sub_le_log (nonzero : 0 < num) (positive : 0 < den) :
    (num.log2 : ℤ) - den.log2 - 1 ≤ Int.log 2 (num / den : ℚ) ∧
      Int.log 2 (num / den : ℚ) < (num.log2 : ℤ) - den.log2 + 1 := by
  have exact : (0 : ℚ) < num / den := by positivity
  have num_le : (2 : ℚ) ^ (num.log2 : ℤ) ≤ num := by exact_mod_cast Nat.log2_self_le nonzero.ne'
  have lt_num : (num : ℚ) < 2 ^ (num.log2 + 1 : ℤ) := by exact_mod_cast Nat.lt_log2_self
  have den_le : (2 : ℚ) ^ (den.log2 : ℤ) ≤ den := by exact_mod_cast Nat.log2_self_le positive.ne'
  have le_den : (den : ℚ) ≤ 2 ^ (den.log2 + 1 : ℤ) := by exact_mod_cast Nat.lt_log2_self.le
  rw [← Int.zpow_le_iff_le_log one_lt_two exact, ← Int.lt_zpow_iff_log_lt one_lt_two exact,
    Nat.cast_ofNat, sub_sub, zpow_sub₀ two_ne_zero, sub_add_eq_add_sub, zpow_sub₀ two_ne_zero]
  constructor <;> gcongr

/-- A quotient is measured in its 53rd bit, unless that is below the least exponent. -/
theorem unitExponent_eq (nonzero : 0 < num) (positive : 0 < den) :
    unitExponent num den = max (Int.log 2 (num / den : ℚ) - 52) minExponent := by
  obtain ⟨lower, upper⟩ := log2_sub_le_log nonzero positive
  have exact : (0 : ℚ) < num / den := by positivity
  have full (unit : ℤ) : den * Nat.pow 2 (unit.toNat + 53) ≤ num * Nat.pow 2 (-unit).toNat ↔
      unit + 53 ≤ Int.log 2 (num / den : ℚ) :=
    (measured_le_iff positive unit).trans (Int.zpow_le_iff_le_log one_lt_two exact)
  simp only [unitExponent, full]
  split <;> omega

theorem unitExponent_lt (nonzero : 0 < num) (positive : 0 < den)
    (bounded : (num : ℚ) / den < 2 ^ (1023 : ℤ)) : unitExponent num den < maxExponent := by
  have exact : (0 : ℚ) < num / den := by positivity
  have log := (Int.lt_zpow_iff_log_lt one_lt_two exact).mp bounded
  simp only [unitExponent_eq nonzero positive, minExponent, maxExponent]
  omega

theorem lt_unitExponent (nonzero : 0 < num) (positive : 0 < den) :
    (num : ℚ) / den < 2 ^ (unitExponent num den + 53) := by
  have exact : (0 : ℚ) < num / den := by positivity
  refine (Int.lt_zpow_iff_log_lt one_lt_two exact).mpr ?_
  rw [unitExponent_eq nonzero positive]
  omega

theorem unitExponent_le (nonzero : 0 < num) (positive : 0 < den)
    (normal : minExponent < unitExponent num den) :
    (2 : ℚ) ^ (unitExponent num den + 52) ≤ num / den := by
  have exact : (0 : ℚ) < num / den := by positivity
  refine (Int.zpow_le_iff_le_log one_lt_two exact).mpr ?_
  rw [unitExponent_eq nonzero positive] at normal ⊢
  omega

/-- The multiple of a unit that a quotient is rounded to. -/
def roundedTo (unit : ℤ) (num den : ℕ) : ℕ :=
  roundHalfEven (num * Nat.pow 2 (-unit).toNat) (den * Nat.pow 2 unit.toNat)

theorem ofRatio_eq_pack (nonzero : 0 < num) : ofRatio false num den =
    pack false (roundedTo (unitExponent num den) num den) (unitExponent num den) :=
  if_neg nonzero.ne'

theorem abs_mul_sub (multiple exact : ℚ) (unit : ℤ) :
    |multiple * 2 ^ unit - exact| = |multiple - exact / 2 ^ unit| * 2 ^ unit := by
  have above : (0 : ℚ) < 2 ^ unit := zpow_pos two_pos unit
  rw [← abs_of_pos above, ← abs_mul, abs_of_pos above, sub_mul, div_mul_cancel₀ _ above.ne']

section

variable (unit : ℤ) (positive : 0 < den)

include positive

theorem roundedTo_le {bound : ℕ} (most : (num : ℚ) / den ≤ bound * 2 ^ unit) :
    roundedTo unit num den ≤ bound := by
  apply roundHalfEven_le_of_le (measured_pos positive unit)
  rwa [measured_eq, div_le_iff₀ (zpow_pos two_pos unit)]

theorem le_roundedTo {bound : ℕ} (least : bound * 2 ^ unit ≤ (num : ℚ) / den) :
    bound ≤ roundedTo unit num den := by
  apply le_roundHalfEven_of_le (measured_pos positive unit)
  rwa [measured_eq, le_div_iff₀ (zpow_pos two_pos unit)]

theorem abs_roundedTo_sub_le (other : ℤ) :
    |roundedTo unit num den * 2 ^ unit - (num : ℚ) / den| ≤
      |other * 2 ^ unit - (num : ℚ) / den| := by
  rw [abs_mul_sub, abs_mul_sub, ← measured_eq]
  gcongr ?_ * 2 ^ unit
  exact abs_roundHalfEven_sub_le _ (measured_pos positive unit) other

theorem even_roundedTo_of_tie {other : ℤ} (different : other ≠ roundedTo unit num den)
    (tie : |other * 2 ^ unit - (num : ℚ) / den| =
      |roundedTo unit num den * 2 ^ unit - (num : ℚ) / den|) : Even (roundedTo unit num den) := by
  rw [abs_mul_sub, abs_mul_sub, ← measured_eq] at tie
  exact even_roundHalfEven_of_tie (measured_pos positive unit) different
    (mul_right_cancel₀ (zpow_pos two_pos unit).ne' tie)

end

/-- A number is a multiple of the unit, or farther away than a nearest multiple. -/
theorem IsProper.multiple_or_farther {y : Binary64} (proper : y.IsProper) {near exact : ℚ}
    {unit : ℤ} (nearest : ∀ multiple : ℤ, |near - exact| ≤ |multiple * 2 ^ unit - exact|)
    (full : minExponent < unit → 2 ^ (unit + 52) ≤ exact) :
    (∃ multiple : ℤ, y.value = multiple * 2 ^ unit) ∨ |near - exact| < |y.value - exact| := by
  rcases proper.multiple_or_below unit with multiple | ⟨normal, below⟩
  · exact .inl multiple
  · right
    have first : ((2 ^ 52 : ℤ) : ℚ) * 2 ^ unit = 2 ^ (unit + 52) := by
      rw [zpow_add₀ two_ne_zero, mul_comm]
      norm_num
    calc |near - exact| ≤ |((2 ^ 52 : ℤ) : ℚ) * 2 ^ unit - exact| := nearest (2 ^ 52)
      _ = exact - 2 ^ (unit + 52) := by
          rw [first, abs_sub_comm, abs_of_nonneg (sub_nonneg.mpr (full normal))]
      _ < exact - y.value := sub_lt_sub_left below exact
      _ ≤ |y.value - exact| := by
          rw [abs_sub_comm]
          exact le_abs_self _

theorem isNearest_zero : (zero false).IsNearest 0 where
  proper := ⟨by norm_num, le_rfl, by decide⟩
  reduced := .inr rfl
  nearest other := by simp [zero]
  even _ different tie := by
    simp only [zero, value_finite, sub_zero, Nat.cast_zero, zero_mul, abs_zero, abs_eq_zero,
      if_neg Bool.false_ne_true] at different tie
    exact absurd tie different

/-- A quotient that is not too large is correctly rounded. -/
theorem isNearest_ofRatio (positive : 0 < den) (bounded : (num : ℚ) / den < 2 ^ (1023 : ℤ)) :
    (ofRatio false num den).IsNearest (num / den) := by
  rcases num.eq_zero_or_pos with rfl | nonzero
  · simpa [ofRatio] using isNearest_zero
  · rw [ofRatio_eq_pack nonzero]
    have least : minExponent ≤ unitExponent num den := by
      rw [unitExponent_eq nonzero positive]
      exact le_max_right _ _
    have inRange := unitExponent_lt nonzero positive bounded
    have below := lt_unitExponent nonzero positive
    have full := unitExponent_le nonzero positive
    generalize unitExponent num den = unit at least inRange below full
    have most : roundedTo unit num den ≤ 2 ^ 53 := by
      apply roundedTo_le unit positive
      rw [zpow_add₀ two_ne_zero, mul_comm] at below
      exact_mod_cast below.le
    have bits : 2 ^ 52 ≤ roundedTo unit num den ∨ unit = minExponent := by
      rcases least.lt_or_eq with normal | least
      · left
        apply le_roundedTo unit positive
        have full := full normal
        rw [zpow_add₀ two_ne_zero, mul_comm] at full
        exact_mod_cast full
      · exact .inr least.symm
    have value := value_pack most inRange
    have farther {y : Binary64} (other : y.IsProper) :=
      other.multiple_or_farther (abs_roundedTo_sub_le unit positive) full
    refine ⟨isProper_pack most least inRange, isReduced_pack most inRange bits, ?_, ?_⟩
    · intro y other
      rw [value]
      rcases farther other with ⟨multiple, same⟩ | far
      · rw [same]
        exact abs_roundedTo_sub_le unit positive multiple
      · exact far.le
    · intro y other different tie
      rw [value] at different tie
      rcases farther other with ⟨multiple, same⟩ | far
      · rw [same] at different tie
        refine isEven_pack most inRange (even_roundedTo_of_tie unit positive ?_ tie)
        rintro rfl
        exact different (by rw [Int.cast_natCast])
      · exact absurd tie far.ne'

theorem exists_value_natCast {whole : ℕ} (most : whole ≤ 2 ^ 53) :
    ∃ y : Binary64, y.IsProper ∧ y.value = whole :=
  ⟨pack false whole 0, isProper_pack most (by decide) (by decide),
    by rw [value_pack most (by decide), zpow_zero, mul_one]⟩

theorem exists_value_add_inv {whole bits : ℕ} (most : whole * 2 ^ bits + 1 ≤ 2 ^ 53)
    (few : bits ≤ 53) : ∃ y : Binary64, y.IsProper ∧ y.value = whole + (2 ^ bits)⁻¹ := by
  have least : minExponent ≤ -(bits : ℤ) := by
    simp only [minExponent]
    omega
  have inRange : -(bits : ℤ) < maxExponent := by
    simp only [maxExponent]
    omega
  refine ⟨pack false (whole * 2 ^ bits + 1) (-bits), isProper_pack most least inRange, ?_⟩
  rw [value_pack most inRange, zpow_neg, zpow_natCast]
  push_cast
  rw [add_mul, mul_inv_cancel_right₀ (by positivity), one_mul]

/-- A quotient above a whole number has a double-precision number that is nearer to it: quotients
with one divisor are too far apart to come within half the spacing of the whole number. -/
theorem exists_nearer {whole : ℕ} (most : num ≤ 2 ^ 53) (positive : 0 < den) (small : den ≤ 2 ^ 53)
    (below : whole * den < num) :
    ∃ y : Binary64, y.IsProper ∧ |y.value - num / den| < |(whole : ℚ) - num / den| := by
  have few : den.log2 < 54 := (Nat.log2_lt positive.ne').mpr (by omega)
  have significand : whole * 2 ^ den.log2 + 1 ≤ 2 ^ 53 := by
    have := Nat.mul_le_mul_left whole (Nat.log2_self_le positive.ne')
    omega
  obtain ⟨y, proper, value⟩ := exists_value_add_inv significand (Nat.le_of_lt_succ few)
  refine ⟨y, proper, ?_⟩
  have above : (0 : ℚ) < den := Nat.cast_pos.mpr positive
  have spacing : ((2 : ℚ) ^ den.log2)⁻¹ < 2 * (1 / den) := by
    have most : (den : ℚ) < 2 ^ (den.log2 + 1) := by exact_mod_cast Nat.lt_log2_self
    rw [mul_one_div, inv_lt_iff_one_lt_mul₀ (by positivity), div_mul_eq_mul_div, one_lt_div above]
    exact most.trans_eq (pow_succ' 2 _)
  have distance : 1 / (den : ℚ) ≤ num / den - whole := by
    have apart : (whole : ℚ) * den + 1 ≤ num := by exact_mod_cast below
    rw [le_sub_iff_add_le', add_div' _ _ _ above.ne']
    gcongr
  have nonneg : 0 < ((2 : ℚ) ^ den.log2)⁻¹ := by positivity
  rw [value, abs_lt, abs_of_neg (by linarith [one_div_pos.mpr above])]
  constructor <;> linarith

theorem IsNearest.value_nonneg {x : Binary64} {exact : ℚ} (rounds : x.IsNearest exact)
    (nonneg : 0 ≤ exact) : 0 ≤ x.value := by
  obtain ⟨y, proper, value⟩ := exists_value_natCast (Nat.zero_le _)
  have nearest := rounds.nearest proper
  rw [value, Nat.cast_zero, zero_sub, abs_neg, abs_of_nonneg nonneg] at nearest
  linarith [neg_le_abs (x.value - exact)]

/-- Rounding a quotient of moderate numbers keeps the whole numbers that it reaches. -/
theorem IsNearest.value_le_iff {x : Binary64} (most : num ≤ 2 ^ 53) (positive : 0 < den)
    (small : den ≤ 2 ^ 53) (rounds : x.IsNearest (num / den)) {whole : ℕ} (top : whole ≤ 2 ^ 53) :
    x.value ≤ whole ↔ (num : ℚ) / den ≤ whole := by
  constructor
  · intro low
    by_contra! beyond
    have below : whole * den < num := by
      rw [lt_div_iff₀ (Nat.cast_pos.mpr positive)] at beyond
      exact_mod_cast beyond
    obtain ⟨y, proper, nearer⟩ := exists_nearer most positive small below
    have nearest := (rounds.nearest proper).trans_lt nearer
    rw [abs_of_neg (by linarith), abs_of_neg (by linarith)] at nearest
    linarith
  · intro reaches
    obtain ⟨y, proper, value⟩ := exists_value_natCast top
    have nearest := rounds.nearest proper
    rw [value, abs_of_nonneg (sub_nonneg.mpr reaches)] at nearest
    exact (sub_le_sub_iff_right _).mp ((le_abs_self _).trans nearest)

/-- Rounding a quotient of moderate numbers keeps its ceiling. -/
theorem IsNearest.ceil_value {x : Binary64} (most : num ≤ 2 ^ 53) (positive : 0 < den)
    (small : den ≤ 2 ^ 53) (rounds : x.IsNearest (num / den)) :
    ⌈x.value⌉ = ⌈(num / den : ℚ)⌉ := by
  have nonneg : (0 : ℚ) ≤ num / den := by positivity
  have bounded : ⌈(num / den : ℚ)⌉₊ ≤ 2 ^ 53 := by
    have : (num : ℚ) / den ≤ num := div_le_self (Nat.cast_nonneg _) (Nat.one_le_cast.mpr positive)
    exact (Nat.ceil_le.mpr this).trans most
  rw [← Int.natCast_ceil_eq_ceil nonneg, ← Int.natCast_ceil_eq_ceil (rounds.value_nonneg nonneg),
    Nat.cast_inj]
  have low : ⌈x.value⌉₊ ≤ ⌈(num / den : ℚ)⌉₊ :=
    Nat.ceil_le.mpr ((rounds.value_le_iff most positive small bounded).mpr (Nat.le_ceil _))
  have high : (num : ℚ) / den ≤ ⌈x.value⌉₊ :=
    (rounds.value_le_iff most positive small (low.trans bounded)).mp (Nat.le_ceil _)
  exact low.antisymm (Nat.ceil_le.mpr high)

end AuditTrail.Binary64
