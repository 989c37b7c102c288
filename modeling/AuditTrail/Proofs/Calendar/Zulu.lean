import AuditTrail.Calendar.FreeForm.OnDay
import AuditTrail.Proofs.Calendar.Written
import AuditTrail.Proofs.Coercion

/-!
# Zones of written moments

A time of day that ends in `Z` is one of universal time.  Behind a bare date the `Z` is taken for
the separator and the time of an offset of zero, so that the day is left without a zone.  Only what
shows no zone is taken in the given one.
-/

namespace AuditTrail

open Text Iso

namespace Moment

theorem instant_utc (wall : Nat) : (⟨wall, some .utc, false⟩ : Moment).instant = wall :=
  Int.sub_zero _

/-- A moment in universal time stays as it is, whatever zone is given. -/
theorem normalize_utc {wall : Nat} (within : wall < wallLimit) (zone : Zone) :
    normalize zone ⟨wall, some .utc, false⟩ = .ok ⟨wall, some .utc, false⟩ := by
  have there : (⟨wall, some .utc, false⟩ : Moment).HasUtc := by
    rw [HasUtc, instant_utc]
    omega
  rw [normalize, orZone, toUtc_eq rfl there, instant_utc, Int.toNat_natCast]

/-- A local time is the same time in universal time just where the zone has no offset then. -/
theorem normalize_local_eq_iff {wall : Nat} (within : wall < wallLimit) (zone : Zone) :
    normalize zone ⟨wall, none, false⟩ = .ok ⟨wall, some .utc, false⟩ ↔
      zone.offset wall false = 0 := by
  have instant : (⟨wall, some zone, false⟩ : Moment).instant = wall - zone.offset wall false := rfl
  rw [normalize, orZone]
  by_cases short : (⟨wall, some zone, false⟩ : Moment).isShort
  · by_cases there : (⟨wall, some zone, false⟩ : Moment).HasUtc
    · rw [toUtc_eq short there, instant]
      rw [HasUtc, instant] at there
      simp only [Except.ok.injEq, Moment.mk.injEq, and_true]
      omega
    · rw [toUtc_outside short there]
      rw [HasUtc, instant] at there
      refine iff_of_false (fun same => nomatch same) fun zero => there ?_
      omega
  · rw [toUtc_long short]
    refine iff_of_false (fun same => nomatch same) fun zero => short ?_
    have shows : (⟨wall, some zone, false⟩ : Moment).offset? = some 0 := congrArg some zero
    rw [isShort, shows]
    rfl

theorem withZeroOffset_zulu (text : List Char) :
    withZeroOffset (text ++ ['Z']) = text ++ "+00:00".toList := by
  simp [withZeroOffset]

end Moment

namespace Iso

/-- The clock time of an offset of zero. -/
theorem writesClock_zero : WritesClock "00:00".toList ⟨0, 0, 0, 0⟩ := by
  have text : "00:00".toList = padded 2 0 ++ (mark true ':' ++ (padded 2 0 ++ [])) := by decide
  rw [text]
  exact .minute true (Nat.zero_lt_succ 23) (Nat.zero_lt_succ 59) .none

theorem sinceMidnight_zero : (⟨0, 0, 0, 0⟩ : Clock).sinceMidnight = 0 := rfl

theorem writesOffset_zero : WritesOffset "+00:00".toList (some .utc) :=
  .signed false writesClock_zero rfl

end Iso

namespace Value

variable {freeForm : FreeForm}

theorem toMoment?_of_read {s : String} {m : Moment}
    (read : Iso.read? (Moment.withZeroOffset (trim s.toList)) = some m) (zone : Zone) :
    (Value.text s).toMoment? freeForm zone = some <$> m.normalize zone := by
  have filled : (trim s.toList).isEmpty = false := by
    rw [List.isEmpty_eq_false_iff]
    intro empty
    rw [empty] at read
    cases read
  rw [toMoment?, filled, Moment.ofText]
  simp only [read, Bool.false_eq_true, ↓reduceIte]

/-- A date and a time of day before a final `Z` are those of universal time, whatever zone is
given. -/
theorem toMoment?_zulu {s : String} {text clockText : List Char} {separator : Char} {date : Date}
    {clock : Clock} (written : trim s.toList = text ++ separator :: (clockText ++ ['Z']))
    (day : WritesDate text date) (separates : IsSeparator separator)
    (time : WritesClock clockText clock) (zone : Zone) :
    (Value.text s).toMoment? freeForm zone =
      .ok (some ⟨Moment.midnight date + clock.sinceMidnight, some .utc, false⟩) := by
  have read : Iso.read? (Moment.withZeroOffset (trim s.toList)) =
      some ⟨Moment.midnight date + clock.sinceMidnight, some .utc, false⟩ := by
    rw [written, ← List.cons_append, ← List.append_assoc, Moment.withZeroOffset_zulu,
      List.append_assoc, List.cons_append]
    exact read?_written day separates time writesOffset_zero
  rw [toMoment?_of_read read, Moment.normalize_utc (written_lt day time)]
  rfl

/-- Of a date before a final `Z` only the day is kept. -/
theorem toMoment?_dateZulu {s : String} {text : List Char} {date : Date}
    (written : trim s.toList = text ++ ['Z']) (day : WritesDate text date) (zone : Zone) :
    (Value.text s).toMoment? freeForm zone =
      some <$> Moment.normalize zone ⟨Moment.midnight date, none, false⟩ := by
  have separates : IsSeparator '+' := ⟨by decide, by decide⟩
  have read : Iso.read? (Moment.withZeroOffset (trim s.toList)) =
      some ⟨Moment.midnight date, none, false⟩ := by
    have sign := read?_written day separates writesClock_zero .none
    rw [List.append_nil, sinceMidnight_zero, Nat.add_zero] at sign
    rw [written, Moment.withZeroOffset_zulu]
    exact sign
  exact toMoment?_of_read read zone

theorem map_some_eq_ok_iff {result : Except Fault Moment} {m : Moment} :
    some <$> result = .ok (some m) ↔ result = .ok m := by
  cases result <;> simp [Functor.map, Except.map]

/-- It is midnight in universal time just where the given zone has no offset then. -/
theorem toMoment?_dateZulu_eq_iff {s : String} {text : List Char} {date : Date}
    (written : trim s.toList = text ++ ['Z']) (day : WritesDate text date) (zone : Zone) :
    (Value.text s).toMoment? freeForm zone = .ok (some ⟨Moment.midnight date, some .utc, false⟩) ↔
      zone.offset (Moment.midnight date) false = 0 := by
  have within := written_lt day writesClock_zero
  rw [sinceMidnight_zero, Nat.add_zero] at within
  rw [toMoment?_dateZulu written day zone, map_some_eq_ok_iff, Moment.normalize_local_eq_iff within]

/-- The local time that a value shows without a zone. -/
inductive ShowsLocal (freeForm : FreeForm) : Value → Moment → Prop where
  | moment (m : Moment) (bare : m.zone = none) : ShowsLocal freeForm (.moment m) m
  | date (d : Date) : ShowsLocal freeForm (.date d) ⟨Moment.midnight d, none, false⟩
  | standard (s : String) (m : Moment)
      (read : Iso.read? (Moment.withZeroOffset (trim s.toList)) = some m) (bare : m.zone = none) :
      ShowsLocal freeForm (.text s) m
  | free (s : String) (m : Moment) (filled : (trim s.toList).isEmpty = false)
      (other : Iso.read? (Moment.withZeroOffset (trim s.toList)) = none)
      (read : freeForm (trim s.toList) = .ok m) (bare : m.zone = none) :
      ShowsLocal freeForm (.text s) m

theorem ShowsLocal.zone {value : Value} {m : Moment} (shows : value.ShowsLocal freeForm m) :
    m.zone = none := by
  cases shows with
  | moment _ bare => exact bare
  | date => rfl
  | standard _ _ _ bare => exact bare
  | free _ _ _ _ _ bare => exact bare

/-- The given zone is applied to the local time that a value shows without one. -/
theorem ShowsLocal.toMoment? {value : Value} {m : Moment} (shows : value.ShowsLocal freeForm m)
    (zone : Zone) : value.toMoment? freeForm zone = some <$> m.normalize zone := by
  cases shows with
  | moment => rfl
  | date => rfl
  | standard _ _ read _ => exact toMoment?_of_read read zone
  | free s m filled other read _ =>
      rw [Value.toMoment?, filled, Moment.ofText]
      simp only [other, read, Bool.false_eq_true, ↓reduceIte]

theorem Moment.normalize_of_zone {m : Moment} (zoned : m.zone ≠ none) (one other : Zone) :
    m.normalize one = m.normalize other := by
  obtain ⟨zone, is⟩ := Option.ne_none_iff_exists'.mp zoned
  simp only [Moment.normalize, Moment.orZone, is]

theorem ofText_eq_of_not_showsLocal {s : String} (filled : (trim s.toList).isEmpty = false)
    (bare : ∀ m, ¬ (Value.text s).ShowsLocal freeForm m) (one other : Zone) :
    Moment.ofText freeForm one s = Moment.ofText freeForm other s := by
  rw [Moment.ofText, Moment.ofText]
  cases standard : Iso.read? (Moment.withZeroOffset (trim s.toList)) with
  | some m =>
      have zoned : m.zone ≠ none := fun none => bare m (.standard s m standard none)
      exact Moment.normalize_of_zone zoned one other
  | none =>
      cases free : freeForm (trim s.toList) with
      | error fault => rfl
      | ok m =>
          have zoned : m.zone ≠ none := fun none => bare m (.free s m filled standard free none)
          exact Moment.normalize_of_zone zoned one other

/-- Whatever shows no local time without a zone is read alike in all zones. -/
theorem toMoment?_eq_of_not_showsLocal {value : Value} (bare : ∀ m, ¬ value.ShowsLocal freeForm m)
    (one other : Zone) : value.toMoment? freeForm one = value.toMoment? freeForm other := by
  cases value with
  | text s =>
      cases filled : (trim s.toList).isEmpty with
      | true => simp only [toMoment?, filled, ↓reduceIte]
      | false => simp only [toMoment?, ofText_eq_of_not_showsLocal filled bare one other]
  | moment m =>
      have zoned : m.zone ≠ none := fun none => bare m (.moment m none)
      simp only [toMoment?, Moment.normalize_of_zone zoned one other]
  | date d => exact absurd (.date d) (bare _)
  | _ => simp only [toMoment?]

/-- A date and a time of day before a final `Z` are those of universal time in every zone.  A bare
date before it is a midnight of the given zone, which is that of universal time just where the zone
has no offset then.  That zone is applied to what shows no zone, and to nothing else. -/
theorem zulu_of_any_zone (freeForm : FreeForm) :
    (∀ (s : String) (text clockText : List Char) (separator : Char) (date : Date) (clock : Clock),
      trim s.toList = text ++ separator :: (clockText ++ ['Z']) → WritesDate text date →
      IsSeparator separator → WritesClock clockText clock → ∀ zone,
        (Value.text s).toMoment? freeForm zone =
          .ok (some ⟨Moment.midnight date + clock.sinceMidnight, some .utc, false⟩)) ∧
    (∀ (s : String) (text : List Char) (date : Date), trim s.toList = text ++ ['Z'] →
      WritesDate text date → ∀ zone, (Value.text s).toMoment? freeForm zone =
          some <$> Moment.normalize zone ⟨Moment.midnight date, none, false⟩ ∧
        ((Value.text s).toMoment? freeForm zone =
          .ok (some ⟨Moment.midnight date, some .utc, false⟩) ↔
            zone.offset (Moment.midnight date) false = 0)) ∧
    (∀ (value : Value) (m : Moment), value.ShowsLocal freeForm m →
      m.zone = none ∧ ∀ zone, value.toMoment? freeForm zone = some <$> m.normalize zone) ∧
    ∀ value : Value, (∀ m, ¬ value.ShowsLocal freeForm m) →
      ∀ one other, value.toMoment? freeForm one = value.toMoment? freeForm other := by
  refine ⟨?_, ?_, ?_, ?_⟩
  · intro s text clockText separator date clock written day separates time zone
    exact toMoment?_zulu written day separates time zone
  · intro s text date written day zone
    exact ⟨toMoment?_dateZulu written day zone, toMoment?_dateZulu_eq_iff written day zone⟩
  · intro value m shows
    exact ⟨shows.zone, shows.toMoment?⟩
  · intro value bare one other
    exact toMoment?_eq_of_not_showsLocal bare one other

/-- The civil time of New York in winter. -/
def newYork : Zone := .region ⟨"America/New_York", fun _ _ => -5 * 3600 * microsecondsPerSecond⟩

/-- The end of a Monday that is written by its week, the same day alone, as a date, and in the civil
time of a region. -/
theorem zulu_of_any_zone_monday :
    (∀ zone, (Value.text " 2024-W03-1T23:59:59,9999999Z\n").toMoment? (.onDay ⟨2024, 3, 15⟩) zone =
        .ok (some ⟨Moment.midnight ⟨2024, 1, 15⟩ + (⟨23, 59, 59, 999999⟩ : Clock).sinceMidnight,
          some .utc, false⟩)) ∧
      (∀ zone, (Value.text "20240115Z").toMoment? (.onDay ⟨2024, 3, 15⟩) zone =
        some <$> Moment.normalize zone ⟨Moment.midnight ⟨2024, 1, 15⟩, none, false⟩) ∧
      (∀ zone, (Value.date ⟨2024, 1, 15⟩).toMoment? (.onDay ⟨2024, 3, 15⟩) zone =
        some <$> Moment.normalize zone ⟨Moment.midnight ⟨2024, 1, 15⟩, none, false⟩) ∧
      (Value.moment ⟨0, some newYork, false⟩).toMoment? (.onDay ⟨2024, 3, 15⟩) .utc =
        (Value.moment ⟨0, some newYork, false⟩).toMoment? (.onDay ⟨2024, 3, 15⟩) newYork := by
  have week : Date.ofWeek? 2024 3 1 = some ⟨2024, 1, 15⟩ := by decide +kernel
  have month : Date.make? 2024 1 15 = some ⟨2024, 1, 15⟩ := by decide
  have weekText : WritesDate "2024-W03-1".toList ⟨2024, 1, 15⟩ := .weekDay true (by decide) week
  have dayText : WritesDate "20240115".toList ⟨2024, 1, 15⟩ := .month false month
  have value : microsecondsOf "9999999".toList = 999999 := by decide +kernel
  have fraction : WritesFraction (',' :: "9999999".toList) (microsecondsOf "9999999".toList) :=
    .digits (.inr rfl) (by simp) (by simp)
  rw [value] at fraction
  have clock : WritesClock "23:59:59,9999999".toList ⟨23, 59, 59, 999999⟩ :=
    .second true (by decide : 23 < 24) (by decide : 59 < 60) (by decide : 59 < 60) fraction
  have separates : IsSeparator 'T' := ⟨by decide, by decide⟩
  have zoned : ∀ m,
      ¬ (Value.moment ⟨0, some newYork, false⟩).ShowsLocal (.onDay ⟨2024, 3, 15⟩) m := by
    rintro m (⟨_, bare⟩ | _)
    cases bare
  obtain ⟨moments, dates, bare, others⟩ := zulu_of_any_zone (.onDay ⟨2024, 3, 15⟩)
  refine ⟨?_, ?_, ?_, ?_⟩
  · exact moments _ _ _ 'T' _ _ (by decide +kernel) weekText separates clock
  · exact fun zone => (dates _ _ _ (by decide +kernel) dayText zone).1
  · exact (bare _ _ (.date _)).2
  · exact others _ zoned _ _

/-- A bare date before a final `Z`, in New York: the midnight there is five hours later than the one
of universal time. -/
theorem toMoment?_zuluDate_newYork :
    trim "2024-01-15Z".toList = "2024-01-15".toList ++ ['Z'] ∧
      WritesDate "2024-01-15".toList ⟨2024, 1, 15⟩ ∧
      (Value.text "2024-01-15Z").toMoment? (.onDay ⟨2024, 3, 15⟩) .utc =
        .ok (some ⟨Moment.midnight ⟨2024, 1, 15⟩, some .utc, false⟩) ∧
      (Value.text "2024-01-15Z").toMoment? (.onDay ⟨2024, 3, 15⟩) newYork =
        .ok (some ⟨Moment.midnight ⟨2024, 1, 15⟩ + Moment.timeOfDay 5 0 0 0, some .utc,
          false⟩) := by
  have month : Date.make? 2024 1 15 = some ⟨2024, 1, 15⟩ := by decide
  have written : trim "2024-01-15Z".toList = "2024-01-15".toList ++ ['Z'] := by decide +kernel
  have day : WritesDate "2024-01-15".toList ⟨2024, 1, 15⟩ := .month true month
  refine ⟨written, day, ?_, ?_⟩
  · rw [toMoment?_dateZulu_eq_iff written day]
    rfl
  · rw [toMoment?_dateZulu written day, map_some_eq_ok_iff]
    exact Moment.toUtc_eq (by decide) (by decide +kernel)

end Value

end AuditTrail
