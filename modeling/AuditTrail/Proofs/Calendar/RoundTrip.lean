import AuditTrail.Proofs.Calendar.Zulu
import AuditTrail.Proofs.Text.Case

/-!
# Moments and their texts

What is read is a moment of the calendar in universal time, and such a moment is read from itself
and from its text in any zone.  The text of a moment in another zone is read as the same instant,
unless its offset is shorter than a second: the reader drops such an offset.

The texts that are written and the texts that are read meet at `Iso.WritesDate`, `Iso.WritesClock`
and `Iso.WritesOffset`.
-/

namespace AuditTrail

open Text Iso

namespace Moment

/-- A moment of the calendar by the clock of universal time. -/
structure IsNormal (m : Moment) : Prop where
  /-- The clock is that of universal time. -/
  zone : m.zone = some .utc
  /-- It shows no time twice. -/
  fold : m.fold = false
  /-- The calendar has the day. -/
  within : m.wall < wallLimit

theorem IsNormal.eq {m : Moment} (normal : m.IsNormal) : m = ⟨m.wall, some .utc, false⟩ := by
  obtain ⟨wall, zone, fold⟩ := m
  obtain ⟨rfl, rfl, -⟩ := normal
  rfl

theorem IsNormal.offset? {m : Moment} (normal : m.IsNormal) : m.offset? = some 0 := by
  rw [normal.eq]
  rfl

theorem isNormal_of_toUtc {m r : Moment} (done : m.toUtc = .ok r) : r.IsNormal := by
  by_cases short : m.isShort
  · by_cases there : m.HasUtc
    · rw [toUtc_eq short there] at done
      cases done
      exact ⟨rfl, rfl, (Int.toNat_lt there.1).mpr there.2⟩
    · cases (toUtc_outside short there).symm.trans done
  · cases (toUtc_long short).symm.trans done

theorem isNormal_of_atSecond {seconds : Int} {microseconds : Nat} {r : Moment}
    (done : atSecond seconds microseconds = .ok r) : r.IsNormal := by
  rw [atSecond] at done
  split at done
  · cases done
  split at done
  · cases done
  dsimp only at done
  split at done
  · next within =>
      cases done
      exact ⟨rfl, rfl, by dsimp only; omega⟩
  · cases done

theorem isNormal_of_ofNumber {x : Binary64} {r : Moment} (done : ofNumber x = .ok r) :
    r.IsNormal := by
  change ofSeconds (secondsOf x) = .ok r at done
  cases truncated : (secondsOf x).truncate? with
  | some whole =>
      rw [ofSeconds_eq truncated] at done
      exact isNormal_of_atSecond done
  | none =>
      rw [ofSeconds, truncated] at done
      cases done

theorem isNormal_of_ofText {freeForm : FreeForm} {zone : Zone} {s : String} {r : Moment}
    (done : ofText freeForm zone s = .ok r) : r.IsNormal := by
  rw [ofText] at done
  split at done
  · exact isNormal_of_toUtc done
  · split at done
    · exact isNormal_of_toUtc done
    · split at done <;> cases done

end Moment

namespace Value

theorem isNormal_of_number {value : Value} {r : Moment}
    (done : (do some <$> Moment.ofNumber (← value.number) : Except Fault (Option Moment)) =
      .ok (some r)) : r.IsNormal := by
  rw [number_bind] at done
  have found := map_some_eq_ok_iff.mp done
  cases read : value.number with
  | error fault =>
      rw [read] at found
      cases found
  | ok x =>
      rw [read] at found
      exact Moment.isNormal_of_ofNumber found

/-- Whatever is read is a moment of the calendar in universal time. -/
theorem isNormal_of_toMoment? {freeForm : FreeForm} {zone : Zone} {value : Value} {r : Moment}
    (done : value.toMoment? freeForm zone = .ok (some r)) : r.IsNormal := by
  cases value with
  | text s =>
      rw [toMoment?] at done
      split at done
      · cases done
      · exact Moment.isNormal_of_ofText (map_some_eq_ok_iff.mp done)
  | moment m => exact Moment.isNormal_of_toUtc (map_some_eq_ok_iff.mp done)
  | date d => exact Moment.isNormal_of_toUtc (map_some_eq_ok_iff.mp done)
  | int n => exact isNormal_of_number done
  | float x => exact Moment.isNormal_of_ofNumber (map_some_eq_ok_iff.mp done)
  | decimal d => exact isNormal_of_number done
  | _ => cases done

end Value

namespace Iso

theorem writesDate_text {date : Date} (day : date.IsDay) : WritesDate date.text date := by
  have found : Date.make? date.year date.month date.day = some date :=
    Date.make?_eq_some_iff.mpr ⟨rfl, day⟩
  simpa [Date.text, mark] using WritesDate.month true found

theorem microsecondsOf_padded {n : Nat} (fits : n < 10 ^ 6) : microsecondsOf (padded 6 n) = n := by
  rw [microsecondsOf, ofDigitChars_padded, length_padded (by decide) fits,
    Nat.mul_div_cancel _ (by decide)]

theorem writesFraction_padded {n : Nat} (fits : n < 10 ^ 6) :
    WritesFraction ('.' :: padded 6 n) n := by
  have filled : padded 6 n ≠ [] :=
    List.ne_nil_of_length_pos (by rw [length_padded (by decide) fits]; decide)
  have written := WritesFraction.digits (.inl rfl : IsPoint '.') filled
    fun _ member => isDigit_of_mem_padded member
  rwa [microsecondsOf_padded fits] at written

theorem writesClock_clockText (m : Moment) :
    WritesClock m.clockText ⟨m.hour, m.minute, m.second, m.microsecond⟩ := by
  have hours : m.hour < 24 := Nat.mod_lt _ (by decide)
  have minutes : m.minute < 60 := Nat.mod_lt _ (by decide)
  have seconds : m.second < 60 := Nat.mod_lt _ (by decide)
  have fraction : WritesFraction (if m.microsecond = 0 then [] else '.' :: padded 6 m.microsecond)
      m.microsecond := by
    split
    · next none => exact none ▸ .none
    · exact writesFraction_padded (Nat.mod_lt _ (by decide))
  simpa [Moment.clockText, mark] using WritesClock.second true hours minutes seconds fraction

/-- The zone that the text of an offset is read as: the reader looks at the whole seconds first. -/
def zoneRead (offset : Int) : Zone :=
  if offset.natAbs < microsecondsPerSecond then .utc else .fixed offset

/-- The clock time that the text of an offset shows. -/
def offsetClock (offset : Int) : Clock :=
  let seconds := offset.natAbs / microsecondsPerSecond
  ⟨seconds / 3600, seconds / 60 % 60, seconds % 60, offset.natAbs % microsecondsPerSecond⟩

theorem zoneOf?_offsetClock {offset : Int} (short : Zone.isOffset offset = true) :
    zoneOf? (decide (offset < 0)) (offsetClock offset) = some (zoneRead offset) := by
  have seconds : offset.natAbs / microsecondsPerSecond / 3600 * 3600 +
      offset.natAbs / microsecondsPerSecond / 60 % 60 * 60 +
      offset.natAbs / microsecondsPerSecond % 60 = offset.natAbs / microsecondsPerSecond := by
    omega
  have whole : offset.natAbs / microsecondsPerSecond * microsecondsPerSecond +
      offset.natAbs % microsecondsPerSecond = offset.natAbs := Nat.div_add_mod' _ _
  have signed : (if decide (offset < 0) = true then -(offset.natAbs : Int) else offset.natAbs) =
      offset := by
    simp only [decide_eq_true_eq]
    split <;> omega
  simp only [zoneOf?, offsetClock, seconds, whole, signed, short, ↓reduceIte, zoneRead,
    Nat.div_eq_zero_iff, show microsecondsPerSecond ≠ 0 by decide, false_or]
  split <;> rfl

/-- The text of an offset is an hour and a minute, with a second and its fraction when they are
needed. -/
theorem writesClock_offset {offset : Int} (short : Zone.isOffset offset = true) :
    ∃ text, Moment.offsetText offset = (if decide (offset < 0) then '-' else '+') :: text ∧
      WritesClock text (offsetClock offset) := by
  have hours : (offsetClock offset).hour < 24 := by
    rw [Zone.isOffset, decide_eq_true_eq, microsecondsPerDay] at short
    rw [offsetClock, Nat.div_div_eq_div_mul]
    exact Nat.div_lt_of_lt_mul (by rw [microsecondsPerSecond] at *; omega)
  have minutes : (offsetClock offset).minute < 60 := Nat.mod_lt _ (by decide)
  have seconds : (offsetClock offset).second < 60 := Nat.mod_lt _ (by decide)
  have micro : (offsetClock offset).microsecond < 10 ^ 6 := Nat.mod_lt _ (by decide)
  have opened : Moment.offsetText offset = (if decide (offset < 0) then '-' else '+') ::
      (padded 2 (offsetClock offset).hour ++ ':' :: padded 2 (offsetClock offset).minute ++
        (if (offsetClock offset).microsecond ≠ 0 then
          ':' :: padded 2 (offsetClock offset).second ++
            '.' :: padded 6 (offsetClock offset).microsecond
        else if (offsetClock offset).second ≠ 0 then ':' :: padded 2 (offsetClock offset).second
        else [])) := by
    simp only [decide_eq_true_eq]
    rfl
  rw [opened]
  generalize offsetClock offset = clock at *
  obtain ⟨hour, minute, second, fraction⟩ := clock
  refine ⟨_, rfl, ?_⟩
  split
  · simpa [mark] using WritesClock.second true hours minutes seconds (writesFraction_padded micro)
  · next whole =>
      obtain rfl : fraction = 0 := not_ne_iff.mp whole
      split
      · simpa [mark] using WritesClock.second true hours minutes seconds .none
      · next even =>
          obtain rfl : second = 0 := not_ne_iff.mp even
          simpa [mark] using WritesClock.minute true hours minutes .none

theorem writesOffset_offsetText {offset : Int} (short : Zone.isOffset offset = true) :
    WritesOffset (Moment.offsetText offset) (some (zoneRead offset)) := by
  obtain ⟨text, same, written⟩ := writesClock_offset short
  rw [same]
  exact .signed _ written (zoneOf?_offsetClock short)

theorem not_isBlank_of_isDigit {c : Char} (digit : c.isDigit = true) : isBlank c = false := by
  have bounds := toNat_of_isDigit digit
  exact forall_ascii (p := fun c => c.isDigit = true → isBlank c = false) (by decide +kernel) c
    (by omega) digit

theorem WritesDate.startsWithDigit {text : List Char} {date : Date}
    (written : WritesDate text date) (rest : List Char) : StartsWithDigit (text ++ rest) := by
  cases written <;> rw [List.append_assoc] <;> exact startsWithDigit_padded _ _ _

theorem IsClockChar.plain {c : Char} (char : IsClockChar c) : isBlank c = false ∧ c ≠ 'Z' := by
  rcases char with digit | rfl | rfl | rfl
  · exact ⟨not_isBlank_of_isDigit digit, ne_of_isDigit digit (by decide)⟩
  all_goals decide

/-- An offset ends in a character that is neither a blank nor a `Z`. -/
theorem WritesOffset.last {tail : List Char} {zone : Zone}
    (offset : WritesOffset tail (some zone)) :
    ∃ c, tail.getLast? = some c ∧ isBlank c = false ∧ c ≠ 'Z' := by
  cases offset with
  | @signed negative text _ _ written _ =>
      refine ⟨_, List.getLast?_eq_some_getLast (List.cons_ne_nil _ text), ?_⟩
      rcases List.mem_cons.mp (List.getLast_mem (List.cons_ne_nil _ text)) with sign | inside
      · rw [sign]
        cases negative <;> decide
      · exact (written.isClockChar inside).plain

/-- A date in front and a character that is no blank at the end keep a text from being trimmed. -/
theorem trim_eq_self {text rest : List Char} {date : Date} {last : Char}
    (day : WritesDate text date) (ends : rest.getLast? = some last) (dense : isBlank last = false) :
    trim (text ++ rest) = text ++ rest := by
  obtain ⟨first, more, begins, digit⟩ := day.startsWithDigit rest
  refine trimBy_eq_self ?_ ?_
  · intro c front
    rw [begins] at front
    cases front
    exact not_isBlank_of_isDigit digit
  · intro c back
    rw [List.getLast?_append, ends] at back
    cases back
    exact dense

end Iso

namespace Moment

/-- A moment that can be made: it lies in the calendar, and its offset is shorter than a day. -/
structure IsProper (m : Moment) : Prop where
  /-- The calendar has the day. -/
  within : m.wall < wallLimit
  /-- The offset is shorter than a day. -/
  short : m.isShort = true

theorem IsProper.isOffset {m : Moment} (proper : m.IsProper) {offset : Int}
    (known : m.offset? = some offset) : Zone.isOffset offset = true := by
  have short := proper.short
  rwa [isShort, known] at short

theorem zuluText_zero {m : Moment} (known : m.offset? = some 0) :
    m.zuluText = m.date.text ++ 'T' :: (m.clockText ++ ['Z']) := by
  rw [zuluText, known]
  simp

theorem zuluText_offset {m : Moment} {offset : Int} (known : m.offset? = some offset)
    (away : offset ≠ 0) :
    m.zuluText = m.date.text ++ 'T' :: (m.clockText ++ offsetText offset) := by
  rw [zuluText, known]
  split
  · next none => cases none
  · next zero => exact absurd (Option.some.inj zero) away
  · next same => simp [Option.some.inj same]

/-- The offset that the reader finds behind the time of day is the one that is meant, a final `Z`
included. -/
theorem withZeroOffset_zuluText {m : Moment} {offset : Int} (day : WritesDate m.date.text m.date)
    (known : m.offset? = some offset) (short : Zone.isOffset offset = true) :
    withZeroOffset (trim (String.ofList m.zuluText).toList) =
      m.date.text ++ 'T' :: (m.clockText ++ offsetText offset) := by
  rw [String.toList_ofList]
  by_cases zero : offset = 0
  · subst zero
    have ends : ('T' :: (m.clockText ++ ['Z'])).getLast? = some 'Z' := by
      rw [← List.cons_append, List.getLast?_concat]
    rw [zuluText_zero known, trim_eq_self day ends (by decide), ← List.cons_append,
      ← List.append_assoc, withZeroOffset_zulu, show offsetText 0 = "+00:00".toList by decide,
      List.append_assoc, List.cons_append]
  · obtain ⟨last, ends, dense, other⟩ := (writesOffset_offsetText short).last
    have whole : ('T' :: (m.clockText ++ offsetText offset)).getLast? = some last := by
      simp [List.getLast?_append, List.getLast?_cons, ends]
    rw [zuluText_offset known zero, trim_eq_self day whole dense, withZeroOffset, if_neg]
    simp [List.getLast?_append, whole, other]

/-- The text of a moment is read as its local time in the zone that its offset is read as. -/
theorem toMoment?_zuluText {m : Moment} {offset : Int} (within : m.wall < wallLimit)
    (known : m.offset? = some offset) (short : Zone.isOffset offset = true)
    (freeForm : FreeForm) (zone : Zone) :
    (Value.text (String.ofList m.zuluText)).toMoment? freeForm zone =
      some <$> normalize zone ⟨m.wall, some (zoneRead offset), false⟩ := by
  obtain ⟨isDay, wall⟩ := midnight_add_timeOfDay within
  have day := writesDate_text isDay
  have separates : IsSeparator 'T' := ⟨by decide, by decide⟩
  have read := read?_written day separates (writesClock_clockText m)
    (writesOffset_offsetText short)
  rw [← withZeroOffset_zuluText day known short] at read
  rw [Value.toMoment?_of_read read zone]
  exact congrArg (fun total => some <$> normalize zone ⟨total, some (zoneRead offset), false⟩) wall

/-- A moment in universal time is read from itself in any zone. -/
theorem IsNormal.normalize {m : Moment} (normal : m.IsNormal) (zone : Zone) :
    m.normalize zone = .ok m := by
  rw [normal.eq]
  exact normalize_utc normal.within zone

/-- It is read from its text in any zone. -/
theorem IsNormal.toMoment?_zuluText {m : Moment} (normal : m.IsNormal)
    (freeForm : FreeForm) (zone : Zone) :
    (Value.text (String.ofList m.zuluText)).toMoment? freeForm zone = .ok (some m) := by
  have short : Zone.isOffset 0 = true := by decide
  rw [Moment.toMoment?_zuluText normal.within normal.offset? short, show zoneRead 0 = .utc from rfl,
    normalize_utc normal.within, ← normal.eq]
  rfl

/-- An offset of whole seconds, with a fraction or without, is kept in the text. -/
theorem toMoment?_of_long {m : Moment} {offset : Int} (proper : m.IsProper)
    (known : m.offset? = some offset) (there : m.HasUtc)
    (long : microsecondsPerSecond ≤ offset.natAbs) (freeForm : FreeForm) (zone : Zone) :
    (Value.text (String.ofList m.zuluText)).toMoment? freeForm zone =
      .ok (some ⟨m.instant.toNat, some .utc, false⟩) := by
  have same : (⟨m.wall, some (.fixed offset), false⟩ : Moment).instant = m.instant := by
    rw [Moment.instant, Moment.instant, known]
    rfl
  have thereToo : (⟨m.wall, some (.fixed offset), false⟩ : Moment).HasUtc := by
    rw [HasUtc, same]
    exact there
  have short : (⟨m.wall, some (.fixed offset), false⟩ : Moment).isShort := proper.isOffset known
  rw [toMoment?_zuluText proper.within known (proper.isOffset known), zoneRead,
    if_neg (Nat.not_lt.mpr long), Moment.normalize, orZone, toUtc_eq short thereToo, same]
  rfl

/-- A shorter offset is lost. -/
theorem toMoment?_of_short {m : Moment} {offset : Int} (proper : m.IsProper)
    (known : m.offset? = some offset) (brief : offset.natAbs < microsecondsPerSecond)
    (freeForm : FreeForm) (zone : Zone) :
    (Value.text (String.ofList m.zuluText)).toMoment? freeForm zone =
      .ok (some ⟨m.wall, some .utc, false⟩) := by
  rw [toMoment?_zuluText proper.within known (proper.isOffset known), zoneRead, if_pos brief,
    normalize_utc proper.within]
  rfl

/-- What is read is in universal time, and reading it or its text again, in any zone, gives it
back.  The text of a moment in a zone is read alike in any zone, and as the same instant exactly
when the offset is zero or at least a second; under a second it is read as the local time of
universal time. -/
theorem moments_of_texts (freeForm : FreeForm) (zone : Zone) :
    (∀ (value : Value) (r : Moment), value.toMoment? freeForm zone = .ok (some r) →
      r.offset? = some 0 ∧ ∀ (reader : FreeForm) (other : Zone),
        (Value.moment r).toMoment? reader other = .ok (some r) ∧
        (Value.text (String.ofList r.zuluText)).toMoment? reader other = .ok (some r)) ∧
    ∀ (m : Moment) (offset : Int), m.IsProper → m.offset? = some offset → m.HasUtc →
      ∃ r : Moment, (∀ (reader : FreeForm) (other : Zone),
          (Value.text (String.ofList m.zuluText)).toMoment? reader other = .ok (some r)) ∧
        (r.instant = m.instant ↔ offset = 0 ∨ microsecondsPerSecond ≤ offset.natAbs) ∧
        (offset.natAbs < microsecondsPerSecond → r.instant = m.wall) := by
  constructor
  · intro value r done
    have normal := Value.isNormal_of_toMoment? done
    refine ⟨normal.offset?, fun reader other => ⟨?_, normal.toMoment?_zuluText reader other⟩⟩
    rw [Value.toMoment?, normal.normalize]
    rfl
  · intro m offset proper known there
    have instant : m.instant = m.wall - offset := by
      rw [Moment.instant, known, Option.getD_some]
    by_cases brief : offset.natAbs < microsecondsPerSecond
    · refine ⟨_, toMoment?_of_short proper known brief, ?_, fun _ => instant_utc m.wall⟩
      rw [instant_utc, instant]
      omega
    · have long := Nat.le_of_not_lt brief
      have kept : (⟨m.instant.toNat, some .utc, false⟩ : Moment).instant = m.instant :=
        (instant_utc _).trans (Int.toNat_of_nonneg there.1)
      exact ⟨_, toMoment?_of_long proper known there long, iff_of_true kept (.inr long),
        fun short => absurd short brief⟩

/-- The last microsecond of a leap day, by a clock that is five hours, a second and a microsecond
behind universal time. -/
def leapDay : Moment :=
  ⟨midnight ⟨2024, 2, 29⟩ + timeOfDay 23 59 59 999999, some (.fixed (-18001000001)), false⟩

/-- The leap day ends in universal time on the first of March. -/
theorem moments_of_texts_leapDay :
    (∃ r, (Value.moment leapDay).toMoment? (.onDay ⟨2024, 3, 15⟩) .utc = .ok (some r) ∧
        r.offset? = some 0 ∧ ∀ (reader : FreeForm) (other : Zone),
          (Value.moment r).toMoment? reader other = .ok (some r) ∧
          (Value.text (String.ofList r.zuluText)).toMoment? reader other = .ok (some r)) ∧
      ∃ r : Moment, (∀ (reader : FreeForm) (other : Zone),
          (Value.text (String.ofList leapDay.zuluText)).toMoment? reader other = .ok (some r)) ∧
        r.instant = leapDay.instant := by
  have proper : leapDay.IsProper := ⟨by decide +kernel, by decide⟩
  have there : leapDay.HasUtc := ⟨by decide +kernel, by decide +kernel⟩
  have done : (Value.moment leapDay).toMoment? (.onDay ⟨2024, 3, 15⟩) .utc =
      .ok (some ⟨leapDay.instant.toNat, some .utc, false⟩) := by
    rw [Value.toMoment?, normalize, show leapDay.orZone .utc = leapDay from rfl,
      toUtc_eq proper.short there]
    rfl
  obtain ⟨results, texts⟩ := moments_of_texts (.onDay ⟨2024, 3, 15⟩) .utc
  obtain ⟨r, read, same, _⟩ := texts leapDay (-18001000001) proper rfl there
  exact ⟨⟨_, done, results _ _ done⟩, r, read, same.mpr (.inr (by decide))⟩

/-- A new year that begins a microsecond ahead of universal time. -/
def newYear : Moment := ⟨midnight ⟨2024, 1, 1⟩, some (.fixed 1), false⟩

/-- Its text is read as midnight in universal time, and the microsecond is lost. -/
theorem toMoment?_newYear :
    newYear.zuluText = "2024-01-01T00:00:00+00:00:00.000001".toList ∧
      (Value.text "2024-01-01T00:00:00+00:00:00.000001").toMoment? (.onDay ⟨2024, 3, 15⟩) .utc =
        .ok (some ⟨midnight ⟨2024, 1, 1⟩, some .utc, false⟩) ∧
      newYear.instant = midnight ⟨2024, 1, 1⟩ - 1 ∧
      (Value.moment newYear).toMoment? (.onDay ⟨2024, 3, 15⟩) .utc =
        .ok (some ⟨midnight ⟨2024, 1, 1⟩ - 1, some .utc, false⟩) := by
  have written : newYear.zuluText = "2024-01-01T00:00:00+00:00:00.000001".toList := by
    decide +kernel
  have proper : newYear.IsProper := ⟨by decide +kernel, by decide⟩
  refine ⟨written, ?_, by decide +kernel, ?_⟩
  · have read := toMoment?_of_short proper rfl (by decide) (.onDay ⟨2024, 3, 15⟩) .utc
    rwa [written] at read
  · rw [Value.toMoment?, Value.map_some_eq_ok_iff]
    exact toUtc_eq proper.short (by decide +kernel)

end Moment

end AuditTrail
