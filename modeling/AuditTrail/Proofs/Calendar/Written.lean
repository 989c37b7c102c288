import AuditTrail.Proofs.Calendar.Clock
import AuditTrail.Proofs.Calendar.Ordinal

/-!
# Written moments

A calendar date or a week date is written with or without hyphens; a separator, a time of day and
an offset follow.  What is written is read back.
-/

namespace AuditTrail

theorem Date.daysInMonth_le (year month : Nat) : daysInMonth year month ≤ 31 := by
  rw [daysInMonth]
  split_ifs <;> decide

theorem Date.bounds_of_ofWeek? {year week day : Nat} {date : Date}
    (found : ofWeek? year week day = some date) : week ≤ 53 ∧ day ≤ 7 := by
  rw [ofWeek?] at found
  simp only [Option.ite_none_right_eq_some] at found
  omega

namespace Iso

theorem length_padded_year {year : Nat} (years : year ≤ Date.maxYear) :
    (padded 4 year).length = 4 :=
  length_padded (by decide) (Nat.lt_succ_of_le years)

theorem length_padded_part {n : Nat} (small : n ≤ 53) : (padded 2 n).length = 2 :=
  length_padded (by decide) (small.trans_lt (by decide))

theorem exists_digit {n : Nat} (small : n ≤ 7) : ∃ c, padded 1 n = [c] ∧ c.isDigit = true := by
  obtain ⟨c, digits⟩ := List.length_eq_one_iff.mp
    (length_padded (by decide) (small.trans_lt (by decide : 7 < 10 ^ 1)))
  exact ⟨c, digits, isDigit_of_mem_padded (by rw [digits]; exact List.mem_cons_self)⟩

/-- The text of a day, as a calendar date or as a week date, with or without hyphens.  A week
without its day stands for its Monday. -/
inductive WritesDate : List Char → Date → Prop where
  | month (hyphens : Bool) {year month day : Nat} {date : Date}
      (found : Date.make? year month day = some date) :
      WritesDate
        (padded 4 year ++ (mark hyphens '-' ++ (padded 2 month ++ (mark hyphens '-' ++
          padded 2 day))))
        date
  | week (hyphens : Bool) {year week : Nat} {date : Date} (years : year ≤ Date.maxYear)
      (found : Date.ofWeek? year week 1 = some date) :
      WritesDate (padded 4 year ++ (mark hyphens '-' ++ 'W' :: padded 2 week)) date
  | weekDay (hyphens : Bool) {year week day : Nat} {date : Date} (years : year ≤ Date.maxYear)
      (found : Date.ofWeek? year week day = some date) :
      WritesDate
        (padded 4 year ++ (mark hyphens '-' ++ 'W' :: (padded 2 week ++ (mark hyphens '-' ++
          padded 1 day))))
        date

theorem WritesDate.isDay {text : List Char} {date : Date} (written : WritesDate text date) :
    date.IsDay := by
  cases written with
  | month hyphens found => exact (Date.make?_eq_some_iff.mp found).2
  | week hyphens years found => exact Date.isDay_of_ofWeek? found
  | weekDay hyphens years found => exact Date.isDay_of_ofWeek? found

/-- A character that cannot go on with a date: digits could, and so could the hyphen before the
day of a week. -/
structure IsSeparator (c : Char) : Prop where
  /-- It is no digit. -/
  plain : c.isDigit = false
  /-- It is no hyphen. -/
  other : c ≠ '-'

section Date

variable {text : List Char} {date : Date} {separator : Char}

/-- The end of a date is found. -/
theorem dateLength?_written (written : WritesDate text date) (separates : IsSeparator separator)
    (rest : List Char) : dateLength? (text ++ separator :: rest) = some text.length := by
  have plain := separates.plain
  have other := separates.other
  cases written with
  | @month hyphens year month day date found =>
      obtain ⟨rfl, isDay⟩ := Date.make?_eq_some_iff.mp found
      obtain ⟨_, _, _, _, four⟩ := List.length_eq_four.mp (length_padded_year isDay.year_le)
      have months : month ≤ 53 := isDay.month_le.trans (by decide)
      have days : day ≤ 53 :=
        (isDay.day_le.trans (Date.daysInMonth_le year month)).trans (by decide)
      obtain ⟨m, _, two⟩ := List.length_eq_two.mp (length_padded_part months)
      obtain ⟨_, _, last⟩ := List.length_eq_two.mp (length_padded_part days)
      have digit : m.isDigit = true := isDigit_of_mem_padded (by rw [two]; exact List.mem_cons_self)
      have hyphen := ne_of_isDigit digit (d := '-') (by decide)
      have weekly := ne_of_isDigit digit (d := 'W') (by decide)
      rw [four, two, last]
      cases hyphens <;> simp [dateLength?, mark, hyphen, weekly]
  | @week hyphens year week date years found =>
      obtain ⟨_, _, _, _, four⟩ := List.length_eq_four.mp (length_padded_year years)
      obtain ⟨_, _, two⟩ := List.length_eq_two.mp
        (length_padded_part (Date.bounds_of_ofWeek? found).1)
      rw [four, two]
      cases hyphens <;> simp [dateLength?, mark, plain, other]
  | @weekDay hyphens year week day date years found =>
      have bounds := Date.bounds_of_ofWeek? found
      obtain ⟨_, _, _, _, four⟩ := List.length_eq_four.mp (length_padded_year years)
      obtain ⟨_, _, two⟩ := List.length_eq_two.mp (length_padded_part bounds.1)
      obtain ⟨_, one, digit⟩ := exists_digit bounds.2
      rw [four, two, one]
      cases hyphens <;> simp [dateLength?, mark, plain, digit, digitAt, digit?]

/-- The sign between parts is passed. -/
theorem tail_mark (written : Bool) (sign : Char) (text : List Char) :
    (if written = true then (mark written sign ++ text).tail else mark written sign ++ text) =
      text := by
  cases written <;> rfl

theorem digit?_padded {n : Nat} (small : n ≤ 7) (rest : List Char) :
    digit? (padded 1 n ++ rest) = some n := by
  obtain ⟨c, digits, digit⟩ := exists_digit small
  have read := number?_padded Nat.one_pos (small.trans_lt (by decide : 7 < 10 ^ 1)) rest
  rw [digits] at read ⊢
  simpa [number?, digit?, digit] using congrArg (Option.map Prod.fst) read

/-- Behind the week number of a week date only the day is left to read. -/
theorem date?_week (hyphens : Bool) {year week : Nat} (years : year ≤ Date.maxYear)
    (weeks : week ≤ 53) (rest : List Char) (length : Nat) :
    date? (padded 4 year ++ (mark hyphens '-' ++ 'W' :: (padded 2 week ++ rest))) length =
      (weekDay? hyphens rest length).bind (Date.ofWeek? year week) := by
  rw [date?, number?_padded (by decide) (Nat.lt_succ_of_le years)]
  simp only [Option.bind_eq_bind, Option.bind_some]
  rw [head?_mark hyphens (by simp), tail_mark]
  simp only [pair?_padded (weeks.trans_lt (by decide : 53 < 100)), Option.bind_some]

/-- A date is read back. -/
theorem date?_written (written : WritesDate text date) (rest : List Char) :
    date? (text ++ rest) text.length = some date := by
  cases written with
  | @month hyphens year month day date found =>
      obtain ⟨rfl, isDay⟩ := Date.make?_eq_some_iff.mp found
      have months : month < 100 := isDay.month_le.trans_lt (by decide)
      have days : day < 100 :=
        (isDay.day_le.trans (Date.daysInMonth_le year month)).trans_lt (by decide)
      have begins := startsWithDigit_padded 2 month (mark hyphens '-' ++ (padded 2 day ++ rest))
      simp only [List.append_assoc]
      rw [date?, number?_padded (by decide) (Nat.lt_succ_of_le isDay.year_le)]
      simp only [Option.bind_eq_bind, Option.bind_some]
      rw [head?_mark hyphens (begins.head?_ne (by decide)), tail_mark]
      split
      · next more weekly =>
          exact absurd (congrArg List.head? weekly) (begins.head?_ne (by decide))
      · cases hyphens <;>
          simp [mark, pair?_padded months, pair?_padded days, found]
  | @week hyphens year week date years found =>
      have weeks := (Date.bounds_of_ofWeek? found).1
      have only : weekDay? hyphens rest
          (padded 4 year ++ (mark hyphens '-' ++ 'W' :: padded 2 week)).length = some 1 := by
        cases hyphens <;>
          simp [weekDay?, mark, length_padded_year years, length_padded_part weeks]
      simp only [List.append_assoc, List.cons_append]
      rw [date?_week hyphens years weeks, only]
      exact found
  | @weekDay hyphens year week day date years found =>
      obtain ⟨weeks, days⟩ := Date.bounds_of_ofWeek? found
      obtain ⟨_, one, -⟩ := exists_digit days
      have read := digit?_padded days rest
      have last : weekDay? hyphens (mark hyphens '-' ++ (padded 1 day ++ rest))
          (padded 4 year ++ (mark hyphens '-' ++ 'W' :: (padded 2 week ++ (mark hyphens '-' ++
            padded 1 day)))).length = some day := by
        rw [one] at read ⊢
        cases hyphens <;>
          simpa [weekDay?, mark, length_padded_year years, length_padded_part weeks] using read
      simp only [List.append_assoc, List.cons_append]
      rw [date?_week hyphens years weeks, last]
      exact found

end Date

namespace Clock

/-- The time of day in microseconds. -/
def sinceMidnight (clock : Clock) : Nat :=
  Moment.timeOfDay clock.hour clock.minute clock.second clock.microsecond

end Clock

theorem WritesFraction.lt {text : List Char} {micro : Nat} (written : WritesFraction text micro) :
    micro < microsecondsPerSecond := by
  cases written with
  | none => decide
  | digits is filled all => exact microsecondsOf_lt all

theorem WritesClock.bounds {text : List Char} {clock : Clock} (written : WritesClock text clock) :
    clock.hour < 24 ∧ clock.minute < 60 ∧ clock.second < 60 ∧
      clock.microsecond < microsecondsPerSecond := by
  cases written with
  | hour hours rest => exact ⟨hours, Nat.zero_lt_succ 59, Nat.zero_lt_succ 59, rest.lt⟩
  | minute colons hours minutes rest => exact ⟨hours, minutes, Nat.zero_lt_succ 59, rest.lt⟩
  | second colons hours minutes seconds rest => exact ⟨hours, minutes, seconds, rest.lt⟩

/-- A date, a separator, a time of day and an offset are read back as a moment. -/
theorem read?_written {text clockText tail : List Char} {date : Date} {separator : Char}
    {clock : Clock} {zone : Option Zone} (day : WritesDate text date)
    (separates : IsSeparator separator) (time : WritesClock clockText clock)
    (offset : WritesOffset tail zone) :
    read? (text ++ separator :: (clockText ++ tail)) =
      some ⟨Moment.midnight date + clock.sinceMidnight, zone, false⟩ := by
  rw [read?, dateLength?_written day separates]
  simp only [Option.bind_eq_bind, Option.bind_some, date?_written day, List.drop_left,
    time?_written time offset]
  exact if_pos time.bounds

/-- What is read lies in the calendar. -/
theorem written_lt {text clockText : List Char} {date : Date} {clock : Clock}
    (day : WritesDate text date) (time : WritesClock clockText clock) :
    Moment.midnight date + clock.sinceMidnight < Moment.wallLimit :=
  Moment.midnight_add_lt day.isDay time.bounds.1 time.bounds.2.1 time.bounds.2.2.1
    time.bounds.2.2.2

end Iso

end AuditTrail
