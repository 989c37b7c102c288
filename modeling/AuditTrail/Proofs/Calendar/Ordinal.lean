import AuditTrail.Calendar.Moment
import Mathlib.Algebra.Order.Group.Nat
import Mathlib.Order.Monotone.Basic
import Mathlib.Tactic.SplitIfs

/-!
# Numbered days

The days of the calendar are numbered without gaps: every number up to that of the last day is the
number of a day, and a moment is made of the midnight of its day and its time of day.
-/

namespace AuditTrail

namespace Date

/-- The calendar has a day with these parts. -/
structure IsDay (date : Date) : Prop where
  /-- Years begin at 1. -/
  year_pos : 1 ≤ date.year
  /-- The calendar ends with a year of four digits. -/
  year_le : date.year ≤ maxYear
  /-- Months begin at 1. -/
  month_pos : 1 ≤ date.month
  /-- A year has twelve months. -/
  month_le : date.month ≤ 12
  /-- Days begin at 1. -/
  day_pos : 1 ≤ date.day
  /-- A month has its number of days. -/
  day_le : date.day ≤ daysInMonth date.year date.month

theorem make?_eq_some_iff {year month day : Nat} {date : Date} :
    make? year month day = some date ↔ date = ⟨year, month, day⟩ ∧ date.IsDay := by
  rw [make?, Option.ite_none_right_eq_some]
  constructor
  · rintro ⟨⟨one, two, three, four, five, six⟩, same⟩
    obtain rfl := Option.some.inj same
    exact ⟨rfl, one, two, three, four, five, six⟩
  · rintro ⟨rfl, one, two, three, four, five, six⟩
    exact ⟨⟨one, two, three, four, five, six⟩, rfl⟩

theorem daysBeforeMonth_succ (year : Nat) {month : Nat} (begun : 1 ≤ month) :
    daysBeforeMonth year (month + 1) =
      daysBeforeMonth year month + daysInMonth year month := by
  rw [daysBeforeMonth, if_neg (by omega)]

theorem daysBeforeMonth_mono (year : Nat) : Monotone (daysBeforeMonth year) := by
  refine monotone_nat_of_le_succ fun month => ?_
  cases month with
  | zero => exact Nat.zero_le _
  | succ month =>
      rw [daysBeforeMonth_succ year (Nat.le_add_left 1 month)]
      exact Nat.le_add_right _ _

/-- The number of days of a year. -/
def daysInYear (year : Nat) : Nat := if isLeap year then 366 else 365

theorem daysBeforeMonth_thirteen (year : Nat) : daysBeforeMonth year 13 = daysInYear year := by
  rw [daysInYear]
  cases leap : isLeap year <;> simp [daysBeforeMonth, daysInMonth, leap]

/-- The walk through the months of a year ends in the month and on the day that hold the given
number of days before them. -/
theorem inYear_spec {year month day : Nat} {fuel start rest : Nat} (begun : 1 ≤ start)
    (walk : inYear year fuel start rest = (month, day))
    (within : daysBeforeMonth year start + rest < daysBeforeMonth year (start + fuel + 1)) :
    (1 ≤ month ∧ month ≤ start + fuel) ∧ (1 ≤ day ∧ day ≤ daysInMonth year month) ∧
      daysBeforeMonth year month + day = daysBeforeMonth year start + rest + 1 := by
  induction fuel generalizing start rest with
  | zero =>
      obtain ⟨rfl, rfl⟩ := Prod.mk.inj walk
      rw [Nat.add_zero, daysBeforeMonth_succ year begun] at within
      omega
  | succ fuel ih =>
      rw [inYear] at walk
      split at walk
      · obtain ⟨rfl, rfl⟩ := Prod.mk.inj walk
        omega
      · have next := daysBeforeMonth_succ year begun
        have later := ih (Nat.le_add_left 1 start) walk
          (by rw [show start + 1 + fuel + 1 = start + (fuel + 1) + 1 by omega]; omega)
        omega

theorem isLeap_iff {year : Nat} :
    isLeap year = true ↔ year % 4 = 0 ∧ (year % 100 ≠ 0 ∨ year % 400 = 0) := by
  simp [isLeap]

/-- The days before a year, from its place in the periods of 400, 100 and 4 years. -/
theorem daysBeforeYear_eq (n400 : Nat) {n100 n4 n1 : Nat} (century : n100 ≤ 3) (cycle : n4 ≤ 24)
    (single : n1 ≤ 3) :
    daysBeforeYear (n400 * 400 + n100 * 100 + n4 * 4 + n1 + 1) =
      n400 * 146097 + n100 * 36524 + n4 * 1461 + n1 * 365 := by
  have fours : (n400 * 400 + n100 * 100 + n4 * 4 + n1) / 4 = n400 * 100 + n100 * 25 + n4 := by
    omega
  have centuries : (n400 * 400 + n100 * 100 + n4 * 4 + n1) / 100 = n400 * 4 + n100 := by omega
  have periods : (n400 * 400 + n100 * 100 + n4 * 4 + n1) / 400 = n400 := by omega
  rw [daysBeforeYear, Nat.add_sub_cancel, fours, centuries, periods]
  omega

/-- The last year of a period is a leap year, unless a century ends that is not a fourth one. -/
theorem isLeap_of_periods {n400 n100 n4 : Nat} (cycle : n4 < 24 ∨ (n4 = 24 ∧ n100 = 3)) :
    isLeap (n400 * 400 + n100 * 100 + n4 * 4 + 3 + 1) = true := by
  rw [isLeap_iff]
  omega

theorem daysBeforeYear_succ {year : Nat} (begun : 1 ≤ year) :
    daysBeforeYear (year + 1) = daysBeforeYear year + daysInYear year := by
  obtain ⟨y, rfl⟩ := Nat.exists_eq_add_of_le' begun
  have leap : isLeap (y + 1) = true ↔ 4 ∣ y + 1 ∧ (¬ 100 ∣ y + 1 ∨ 400 ∣ y + 1) := by
    simp only [isLeap_iff, Nat.dvd_iff_mod_eq_zero, ne_eq]
  have centuries : y / 100 ≤ y / 4 := by omega
  simp only [daysBeforeYear, daysInYear, Nat.add_sub_cancel, leap, Nat.succ_div]
  split_ifs <;> omega

theorem daysBeforeYear_mono : Monotone daysBeforeYear := by
  refine monotone_nat_of_le_succ fun year => ?_
  cases year with
  | zero => exact Nat.le_refl 0
  | succ year =>
      rw [daysBeforeYear_succ (Nat.le_add_left 1 year)]
      exact Nat.le_add_right _ _

/-- A day belongs to a year as one of its days. -/
theorem IsDay.inYear_le {date : Date} (day : date.IsDay) :
    daysBeforeMonth date.year date.month + date.day ≤ daysInYear date.year := by
  have month := daysBeforeMonth_succ date.year day.month_pos
  have last := day.day_le
  calc daysBeforeMonth date.year date.month + date.day
      ≤ daysBeforeMonth date.year (date.month + 1) := by omega
    _ ≤ daysBeforeMonth date.year 13 :=
        daysBeforeMonth_mono date.year (Nat.succ_le_succ day.month_le)
    _ = daysInYear date.year := daysBeforeMonth_thirteen date.year

theorem IsDay.ordinal_pos {date : Date} (day : date.IsDay) : 1 ≤ date.ordinal := by
  have first := day.day_pos
  rw [ordinal]
  omega

theorem IsDay.ordinal_le {date : Date} (day : date.IsDay) : date.ordinal ≤ maxOrdinal := by
  have year := daysBeforeYear_succ day.year_pos
  have within := day.inYear_le
  calc date.ordinal ≤ daysBeforeYear (date.year + 1) := by rw [ordinal]; omega
    _ ≤ daysBeforeYear (maxYear + 1) := daysBeforeYear_mono (Nat.succ_le_succ day.year_le)
    _ = maxOrdinal := by decide

/-- A number is split into the days before a year and a day of that year. -/
theorem exists_year (n : Nat) : ∃ year rest,
    ofOrdinal (n + 1) = ⟨year, (inYear year 11 1 rest).1, (inYear year 11 1 rest).2⟩ ∧
      1 ≤ year ∧ n = daysBeforeYear year + rest ∧ rest < daysInYear year := by
  -- The places in the periods of 400, 100, 4 and 1 years, and what is left behind each.
  generalize e400 : n / 146097 = n400
  generalize r400 : n % 146097 = rest400
  generalize e100 : min (rest400 / 36524) 3 = n100
  generalize r100 : rest400 - n100 * 36524 = rest100
  generalize e4 : rest100 / 1461 = n4
  generalize r4 : rest100 % 1461 = rest4
  generalize e1 : min (rest4 / 365) 3 = n1
  generalize r1 : rest4 - n1 * 365 = rest
  generalize ey : n400 * 400 + n100 * 100 + n4 * 4 + n1 + 1 = year
  have century : n100 ≤ 3 := by omega
  have cycle : n4 ≤ 24 := by omega
  have single : n1 ≤ 3 := by omega
  have before := daysBeforeYear_eq n400 century cycle single
  refine ⟨year, rest, ?_, by omega, by rw [← ey]; omega, ?_⟩
  · simp only [ofOrdinal, Nat.add_sub_cancel, e400, r400, e100, r100, e4, r4, e1, r1, ey]
  · -- A day past the 365th is left over only at the end of a leap period.
    rw [daysInYear]
    split
    · omega
    · next plain =>
        have short : ¬ (n1 = 3 ∧ (n4 < 24 ∨ (n4 = 24 ∧ n100 = 3))) := by
          rintro ⟨rfl, cycle⟩
          exact plain (ey ▸ isLeap_of_periods cycle)
        omega

/-- Every number up to the last one is that of a day. -/
theorem ofOrdinal_spec {number : Nat} (first : 1 ≤ number) (last : number ≤ maxOrdinal) :
    (ofOrdinal number).IsDay ∧ (ofOrdinal number).ordinal = number := by
  obtain ⟨n, rfl⟩ := Nat.exists_eq_add_of_le' first
  obtain ⟨year, rest, split, begun, total, within⟩ := exists_year n
  have final : year ≤ maxYear := by
    by_contra later
    have all := daysBeforeYear_mono (Nat.lt_of_not_le later)
    rw [show daysBeforeYear maxYear.succ = maxOrdinal by decide] at all
    omega
  have start : daysBeforeMonth year 1 = 0 := rfl
  have walked := inYear_spec (Nat.le_refl 1) (Prod.eta (inYear year 11 1 rest)).symm
    (by rwa [start, Nat.zero_add, daysBeforeMonth_thirteen])
  rw [split]
  constructor
  · exact ⟨begun, final, walked.1.1, walked.1.2, walked.2.1.1, walked.2.1.2⟩
  · rw [ordinal]
    dsimp only
    omega

theorem isDay_of_ofWeek? {year week day : Nat} {date : Date}
    (found : ofWeek? year week day = some date) : date.IsDay := by
  rw [ofWeek?] at found
  simp only [Option.ite_none_right_eq_some] at found
  obtain ⟨-, ⟨first, last⟩, same⟩ := found
  obtain rfl := Option.some.inj same
  exact (ofOrdinal_spec (by omega) (by omega)).1

end Date

namespace Moment

/-- A moment is made of the midnight of its day and its time of day. -/
theorem midnight_add_timeOfDay {m : Moment} (within : m.wall < wallLimit) :
    m.date.IsDay ∧
      midnight m.date + timeOfDay m.hour m.minute m.second m.microsecond = m.wall := by
  rw [wallLimit, Date.maxOrdinal, microsecondsPerDay, microsecondsPerSecond] at within
  have day := Date.ofOrdinal_spec (Nat.le_add_left 1 (m.wall / microsecondsPerDay))
    (by rw [microsecondsPerDay, microsecondsPerSecond, Date.maxOrdinal]; omega)
  refine ⟨day.1, ?_⟩
  rw [midnight, date, day.2, timeOfDay, hour, minute, second, microsecond, microsecondsPerDay,
    microsecondsPerSecond]
  omega

/-- The times of a day of the calendar are before its end. -/
theorem midnight_add_lt {date : Date} {hour minute second microsecond : Nat} (day : date.IsDay)
    (hours : hour < 24) (minutes : minute < 60) (seconds : second < 60)
    (microseconds : microsecond < microsecondsPerSecond) :
    midnight date + timeOfDay hour minute second microsecond < wallLimit := by
  have first := day.ordinal_pos
  have last := day.ordinal_le
  rw [midnight, timeOfDay, wallLimit, microsecondsPerDay]
  rw [microsecondsPerSecond] at *
  omega

end Moment

end AuditTrail
