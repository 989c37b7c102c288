import AuditTrail.Proofs.Number.Binary64
import AuditTrail.Proofs.Service.Search
import AuditTrail.Search.Response

/-!
# The pages of an answer

The number of pages is the exact quotient of total and size rounded up, although it is computed from
a double-precision quotient.  A filled page is followed by records exactly when its number is less
than that of the last page, and every row is on one page.
-/

namespace AuditTrail.Search

theorem quotient_natCast (num den : ℕ) :
    Response.quotient num den = Binary64.ofRatio false num den := by
  rw [Response.quotient, if_neg (Int.natCast_nonneg den).not_gt, Binary64.ofIntRatio,
    Int.natAbs_natCast, Int.natAbs_natCast, decide_eq_false (Int.natCast_nonneg num).not_gt]

variable {total size : ℤ}

/-- The quotient of a moderate total is correctly rounded. -/
theorem isNearest_quotient (counted : 0 ≤ total ∧ total ≤ 2 ^ 53) (positive : 0 < size) :
    (Response.quotient total size).IsNearest (total / size) := by
  obtain ⟨nonneg, most⟩ := counted
  lift total to ℕ using nonneg
  lift size to ℕ using positive.le
  have moderate : (total : ℚ) / size < 2 ^ (1023 : ℤ) := by
    calc (total : ℚ) / size ≤ total :=
          div_le_self (Nat.cast_nonneg _) (Nat.one_le_cast.mpr (Int.natCast_pos.mp positive))
      _ ≤ 2 ^ (53 : ℤ) := by exact_mod_cast most
      _ < 2 ^ (1023 : ℤ) := zpow_lt_zpow_right₀ one_lt_two (by norm_num)
  rw [quotient_natCast, Int.cast_natCast, Int.cast_natCast]
  exact Binary64.isNearest_ofRatio (Int.natCast_pos.mp positive) moderate

theorem ceil_quotient (counted : 0 ≤ total ∧ total ≤ 2 ^ 53) (positive : 0 < size)
    (small : size ≤ 2 ^ 53) :
    ⌈(Response.quotient total size).value⌉ = ⌈(total / size : ℚ)⌉ := by
  have rounds := isNearest_quotient counted positive
  obtain ⟨nonneg, most⟩ := counted
  lift total to ℕ using nonneg
  lift size to ℕ using positive.le
  exact rounds.ceil_value (by exact_mod_cast most) (Int.natCast_pos.mp positive)
    (by exact_mod_cast small)

theorem totalPages_eq (counted : 0 ≤ total ∧ total ≤ 2 ^ 53) (positive : 0 < size)
    (small : size ≤ 2 ^ 53) : Response.totalPages total size = .ok ⌈(total / size : ℚ)⌉ := by
  rw [Response.totalPages, if_neg positive.ne',
    Binary64.ceil?_eq (isNearest_quotient counted positive).proper,
    ceil_quotient counted positive small]

/-- A page is before the last one when the pages up to it do not hold the total. -/
theorem lt_ceil_iff (positive : 0 < size) (page : ℤ) :
    page < ⌈(total / size : ℚ)⌉ ↔ page * size < total := by
  rw [Int.lt_ceil, lt_div_iff₀ (Int.cast_pos.mpr positive)]
  exact_mod_cast Iff.rfl

/-- Whether a row, counted from zero, is in the window of a page. -/
def IsOnPage (size row page : ℤ) : Prop :=
  ∃ within, Sql.window page size = .ok within ∧
    within.offset ≤ row ∧ row < within.offset + within.limit

theorem exists_window (sized : 1 ≤ size ∧ size ≤ 1000) {page : ℤ} (first : 1 ≤ page) :
    ∃ within, Sql.window page size = .ok within ∧ (within.limit : ℤ) = size ∧
      (within.offset : ℤ) = (page - 1) * size :=
  ⟨_, Sql.window_of_valid first sized, Int.toNat_of_nonneg (by omega),
    Int.toNat_of_nonneg (mul_nonneg (by omega) (by omega))⟩

theorem isOnPage_iff (sized : 1 ≤ size ∧ size ≤ 1000) {row page : ℤ} (first : 1 ≤ page) :
    IsOnPage size row page ↔ row / size = page - 1 := by
  obtain ⟨within, windowed, limit, offset⟩ := exists_window sized first
  have divided : row / size = page - 1 ↔
      within.offset ≤ row ∧ row < within.offset + within.limit := by
    rw [Int.ediv_eq_iff_of_pos (by omega), limit, offset]
  rw [divided]
  constructor
  · rintro ⟨other, same, inside⟩
    obtain rfl := Except.ok.inj (windowed.symm.trans same)
    exact inside
  · exact fun inside => ⟨within, windowed, inside⟩

theorem not_isOnPage {row page : ℤ} (before : page < 1) : ¬ IsOnPage size row page := by
  rintro ⟨within, windowed, -⟩
  rw [Sql.window, if_pos before] at windowed
  cases windowed

/-- Every row is on one page, and its number is at most the number of pages. -/
theorem exists_page (sized : 1 ≤ size ∧ size ≤ 1000) {row : ℤ} (inside : 0 ≤ row ∧ row < total) :
    ∃ page ≤ ⌈(total / size : ℚ)⌉, ∀ other, IsOnPage size row other ↔ other = page := by
  have nonneg : 0 ≤ row / size := Int.ediv_nonneg inside.1 (by omega)
  refine ⟨row / size + 1, ?_, fun other => ?_⟩
  · rw [Int.add_one_le_iff, lt_ceil_iff (by omega)]
    exact (Int.ediv_mul_le row (by omega)).trans_lt inside.2
  · rcases lt_or_ge other 1 with before | first
    · exact iff_of_false (not_isOnPage before) (by omega)
    · rw [isOnPage_iff sized first]
      omega

/-- A filled page is followed by records exactly when it is not the last one. -/
theorem hasMore_eq (positive : 0 < size) {page : ℤ} {hits : List Row} (took : ℤ)
    (filled : (hits.length : ℤ) = min size (max 0 (total - (page - 1) * size))) :
    Response.hasMore ⟨hits, total, page, size, took⟩ = decide (page < ⌈(total / size : ℚ)⌉) := by
  rw [Response.hasMore, decide_eq_decide, lt_ceil_iff positive]
  dsimp only
  have behind : page * size = (page - 1) * size + size := by rw [sub_mul, one_mul, sub_add_cancel]
  omega

/-- The pages of an answer are exact.  The number of pages is the correctly rounded quotient of
total and size rounded up, and that is the exact quotient rounded up; a filled page is followed by
records exactly when its number is less; and every row is on exactly one of these pages. -/
theorem pages_exact {page : ℤ} (counted : 0 ≤ total ∧ total ≤ 2 ^ 53)
    (sized : 1 ≤ size ∧ size ≤ 1000) (first : 1 ≤ page) :
    ∃ within, Sql.window page size = .ok within ∧
      (Response.quotient total size).IsNearest (total / size) ∧
      ⌈(Response.quotient total size).value⌉ = ⌈(total / size : ℚ)⌉ ∧
      (∀ (hits : List Row) (took : ℤ),
        (hits.length : ℤ) = min (within.limit : ℤ) (max 0 (total - within.offset)) →
        (Response.mk hits total page size took).value = .ok (.map [
          ("total", .int total), ("from", .int page), ("size", .int size),
          ("hits", .list (hits.map Value.map)), ("took", .int took),
          ("hasMore", .bool (decide (page < ⌈(total / size : ℚ)⌉))),
          ("totalPages", .int ⌈(total / size : ℚ)⌉)])) ∧
      ∀ row, 0 ≤ row → row < total →
        ∃ number ≤ ⌈(total / size : ℚ)⌉, ∀ other, IsOnPage size row other ↔ other = number := by
  have positive : 0 < size := sized.1
  have small : size ≤ 2 ^ 53 := sized.2.trans (by norm_num)
  obtain ⟨within, windowed, limit, offset⟩ := exists_window sized first
  refine ⟨within, windowed, isNearest_quotient counted positive,
    ceil_quotient counted positive small, ?_,
    fun row nonneg less => exists_page sized ⟨nonneg, less⟩⟩
  intro hits took filled
  rw [limit, offset] at filled
  rw [Response.value, totalPages_eq counted positive small, hasMore_eq positive took filled]
  rfl

/-- A total that leaves one record for the last page.  The quotient is hardly nearer to the next
double-precision number than to the whole number below it. -/
theorem pages_exact_oneLeft :
    (0 ≤ (9007199254740001 : ℤ) ∧ (9007199254740001 : ℤ) ≤ 2 ^ 53) ∧
    (1 ≤ (1000 : ℤ) ∧ (1000 : ℤ) ≤ 1000) ∧ 1 ≤ (9007199254741 : ℤ) ∧
    (Response.mk [[]] 9007199254740001 9007199254741 1000 7).value = .ok (.map [
      ("total", .int 9007199254740001), ("from", .int 9007199254741), ("size", .int 1000),
      ("hits", .list [.map []]), ("took", .int 7), ("hasMore", .bool false),
      ("totalPages", .int 9007199254741)]) ∧
    ∃ number ≤ (9007199254741 : ℤ),
      ∀ other, IsOnPage 1000 9007199254740000 other ↔ other = number := by
  have counted : 0 ≤ (9007199254740001 : ℤ) ∧ (9007199254740001 : ℤ) ≤ 2 ^ 53 := by norm_num
  have sized : 1 ≤ (1000 : ℤ) ∧ (1000 : ℤ) ≤ 1000 := by norm_num
  have first : 1 ≤ (9007199254741 : ℤ) := by norm_num
  obtain ⟨within, windowed, -, -, answers, rows⟩ := pages_exact counted sized first
  obtain rfl := Except.ok.inj ((Sql.window_of_valid first sized).symm.trans windowed)
  have pages : ⌈((9007199254740001 : ℤ) / (1000 : ℤ) : ℚ)⌉ = 9007199254741 := by
    norm_num [Int.ceil_eq_iff]
  rw [pages] at answers rows
  refine ⟨counted, sized, first, ?_, rows 9007199254740000 (by norm_num) (by norm_num)⟩
  simpa using answers [[]] 7 (by norm_num)

end AuditTrail.Search
