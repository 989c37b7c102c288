import AuditTrail.Coercion

/-!
# Reading points in time

A value that can be read as a point in time is given by the clock of universal time.  Whatever
cannot be read is a failure of the value, the *stray* values apart: those write a moment that the
calendar does not have in universal time, or a count of seconds beyond the platform's calendar, or
they make the reader of free form fail for something else than the text.
-/

namespace AuditTrail

open Text

/-- What reading comes to: a moment in universal time or a failure of the value, unless what is
read is stray. -/
inductive Answers (stray : Prop) : Except Fault Moment → Prop where
  | read (m : Moment) (utc : m.zone = some .utc) (tame : ¬ stray) : Answers stray (.ok m)
  | refused (fault : Fault) (value : fault.kind = .value) (tame : ¬ stray) :
      Answers stray (.error fault)
  | strayed (fault : Fault) (other : fault.kind ≠ .value) (strays : stray) :
      Answers stray (.error fault)

theorem Answers.congr {one other : Prop} {result : Except Fault Moment}
    (answers : Answers one result) (same : one ↔ other) : Answers other result :=
  propext same ▸ answers

namespace Moment

/-- The microseconds since the first midnight of the year 1, by the clock of universal time. -/
def instant (m : Moment) : Int := m.wall - m.offset?.getD 0

/-- Whether the calendar has the moment by the clock of universal time. -/
def HasUtc (m : Moment) : Prop := 0 ≤ m.instant ∧ m.instant < wallLimit

instance (m : Moment) : Decidable m.HasUtc := inferInstanceAs (Decidable (_ ∧ _))

theorem toUtc_eq {m : Moment} (short : m.isShort) (there : m.HasUtc) :
    m.toUtc = .ok ⟨m.instant.toNat, some .utc, false⟩ := by
  have within : 0 ≤ (m.wall : Int) - m.offset?.getD 0 ∧
      (m.wall : Int) - m.offset?.getD 0 < wallLimit := there
  rw [toUtc, if_pos short, toUtc?]
  simp only [if_pos within]
  rfl

theorem toUtc_outside {m : Moment} (short : m.isShort) (missing : ¬ m.HasUtc) :
    m.toUtc = .error .outsideCalendar := by
  have outside : ¬ (0 ≤ (m.wall : Int) - m.offset?.getD 0 ∧
      (m.wall : Int) - m.offset?.getD 0 < wallLimit) := missing
  rw [toUtc, if_pos short, toUtc?]
  simp only [if_neg outside]

theorem toUtc_long {m : Moment} (long : ¬ m.isShort) : m.toUtc = .error .offsetTooLong :=
  if_neg long

theorem toUtc_answers (m : Moment) : Answers (m.isShort ∧ ¬ m.HasUtc) m.toUtc := by
  by_cases short : m.isShort
  · by_cases there : m.HasUtc
    · rw [toUtc_eq short there]
      exact .read _ rfl fun strays => strays.2 there
    · rw [toUtc_outside short there]
      exact .strayed _ (by decide) ⟨short, there⟩
  · rw [toUtc_long short]
    exact .refused _ rfl fun strays => short strays.1

/-- The microseconds of a count of seconds beyond a whole number of them, to the nearest one. -/
def excess (x : Binary64) (whole : Int) : Int :=
  match ((x.sub (Binary64.ofInt whole)).mul (Binary64.ofInt microsecondsPerSecond)).toRatio? with
  | some (num, den) => roundHalfEvenInt num den
  | none => 0

/-- A whole second and some microseconds, at most one second of which is carried over. -/
def carried (whole micro : Int) : Int × Nat :=
  if micro < 0 then (whole - 1, (micro + microsecondsPerSecond).toNat)
  else if (microsecondsPerSecond : Int) ≤ micro then
    (whole + 1, (micro - microsecondsPerSecond).toNat)
  else (whole, micro.toNat)

/-- Whether a count of seconds is infinite or beyond the platform's calendar. -/
def IsDistant (x : Binary64) : Prop :=
  match x.truncate? with
  | some whole => hasPlatformYear (carried whole (excess x whole)).1 = false
  | none => x ≠ .nan

theorem ofSeconds_eq {x : Binary64} {whole : Int} (truncated : x.truncate? = some whole) :
    ofSeconds x =
      atSecond (carried whole (excess x whole)).1 (carried whole (excess x whole)).2 := by
  have opened : ofSeconds x =
      if excess x whole < 0 then
        atSecond (whole - 1) (excess x whole + microsecondsPerSecond).toNat
      else if (microsecondsPerSecond : Int) ≤ excess x whole then
        atSecond (whole + 1) (excess x whole - microsecondsPerSecond).toNat
      else atSecond whole (excess x whole).toNat := by
    rw [ofSeconds, truncated]
    rfl
  rw [opened, carried]
  split
  · rfl
  · split <;> rfl

/-- The platform names a year only for counts that fit its words. -/
theorem fits_of_hasPlatformYear {seconds : Int} (near : hasPlatformYear seconds = true) :
    ¬ (seconds < -(Int.pow 2 63) ∨ Int.pow 2 63 ≤ seconds) := by
  have word : Int.pow 2 63 = 9223372036854775808 := by decide
  rw [hasPlatformYear, Bool.and_eq_true, decide_eq_true_eq, decide_eq_true_eq] at near
  rw [word]
  omega

theorem atSecond_answers (seconds : Int) (microseconds : Nat) :
    Answers (hasPlatformYear seconds = false) (atSecond seconds microseconds) := by
  rw [atSecond]
  cases near : hasPlatformYear seconds with
  | true =>
      rw [if_neg (fits_of_hasPlatformYear near)]
      simp only [Bool.not_true, Bool.false_eq_true, ↓reduceIte]
      split
      · exact .read _ rfl (by decide)
      · exact .refused _ rfl (by decide)
  | false =>
      split
      · exact .strayed _ (by decide) rfl
      · exact .strayed _ (by decide) rfl

theorem ofSeconds_answers (x : Binary64) : Answers (IsDistant x) (ofSeconds x) := by
  rw [IsDistant]
  cases truncated : x.truncate? with
  | some whole =>
      rw [ofSeconds_eq truncated]
      exact atSecond_answers _ _
  | none =>
      rw [ofSeconds, truncated]
      by_cases undefined : x = .nan
      · simp only [if_pos undefined]
        exact .refused _ rfl (not_not_intro undefined)
      · simp only [if_neg undefined]
        exact .strayed _ (by decide) undefined

/-- The count of seconds that a number stands for. -/
def secondsOf (x : Binary64) : Binary64 :=
  if x.absReaches millisecondBound then x.divNat 1000 else x

theorem ofNumber_answers (x : Binary64) : Answers (IsDistant (secondsOf x)) (ofNumber x) :=
  ofSeconds_answers (secondsOf x)

end Moment

namespace Value

/-- The moment, in a zone, that a value writes.  A text is read in free form only if it is no
standard text. -/
inductive Writes (freeForm : FreeForm) (zone : Zone) : Value → Moment → Prop where
  | moment (m : Moment) : Writes freeForm zone (.moment m) (m.orZone zone)
  | date (d : Date) :
      Writes freeForm zone (.date d) ((⟨Moment.midnight d, none, false⟩ : Moment).orZone zone)
  | standard (s : String) (m : Moment) (filled : (trim s.toList).isEmpty = false)
      (read : Iso.read? (Moment.withZeroOffset (trim s.toList)) = some m) :
      Writes freeForm zone (.text s) (m.orZone zone)
  | free (s : String) (m : Moment) (filled : (trim s.toList).isEmpty = false)
      (other : Iso.read? (Moment.withZeroOffset (trim s.toList)) = none)
      (read : freeForm (trim s.toList) = .ok m) : Writes freeForm zone (.text s) (m.orZone zone)

/-- Whether a value is a number. -/
def IsNumber : Value → Prop
  | int _ | float _ | decimal _ => True
  | _ => False

/-- Whether what a value writes is beyond the calendar or the platform, or makes the reader of free
form fail for something else than the text. -/
inductive IsStray (freeForm : FreeForm) (zone : Zone) : Value → Prop where
  | outside (value : Value) (m : Moment) (written : value.Writes freeForm zone m)
      (short : m.isShort) (missing : ¬ m.HasUtc) : IsStray freeForm zone value
  | broken (s : String) (fault : Fault) (filled : (trim s.toList).isEmpty = false)
      (other : Iso.read? (Moment.withZeroOffset (trim s.toList)) = none)
      (failed : freeForm (trim s.toList) = .error fault)
      (apart : fault.kind.isUnreadable = false) : IsStray freeForm zone (.text s)
  | large (value : Value) (number : value.IsNumber)
      (exceeds : value.toBinary64 = .error .tooLarge) : IsStray freeForm zone value
  | distant (value : Value) (x : Binary64) (number : value.IsNumber)
      (read : value.toBinary64 = .ok x) (far : Moment.IsDistant (Moment.secondsOf x)) :
      IsStray freeForm zone value

variable {freeForm : FreeForm} {zone : Zone}

theorem isStray_moment_iff {m : Moment} : (Value.moment m).IsStray freeForm zone ↔
    (m.orZone zone).isShort ∧ ¬ (m.orZone zone).HasUtc := by
  constructor
  · rintro (⟨_, _, ⟨⟩, short, missing⟩ | _ | ⟨_, number, _⟩ | ⟨_, _, number, _, _⟩)
    · exact ⟨short, missing⟩
    · exact number.elim
    · exact number.elim
  · exact fun ⟨short, missing⟩ => .outside _ _ (.moment m) short missing

theorem isStray_date_iff {d : Date} : (Value.date d).IsStray freeForm zone ↔
    ((⟨Moment.midnight d, none, false⟩ : Moment).orZone zone).isShort ∧
      ¬ ((⟨Moment.midnight d, none, false⟩ : Moment).orZone zone).HasUtc := by
  constructor
  · rintro (⟨_, _, ⟨⟩, short, missing⟩ | _ | ⟨_, number, _⟩ | ⟨_, _, number, _, _⟩)
    · exact ⟨short, missing⟩
    · exact number.elim
    · exact number.elim
  · exact fun ⟨short, missing⟩ => .outside _ _ (.date d) short missing

/-- A number is stray when it is too large or its count of seconds is. -/
theorem isStray_number_iff {value : Value} (number : value.IsNumber) :
    value.IsStray freeForm zone ↔ value.toBinary64 = .error .tooLarge ∨
      ∃ x, value.toBinary64 = .ok x ∧ Moment.IsDistant (Moment.secondsOf x) := by
  constructor
  · rintro (⟨_, _, written, _, _⟩ | _ | ⟨_, _, exceeds⟩ | ⟨_, x, _, read, far⟩)
    · cases written <;> exact number.elim
    · exact number.elim
    · exact .inl exceeds
    · exact .inr ⟨x, read, far⟩
  · rintro (exceeds | ⟨x, read, far⟩)
    · exact .large value number exceeds
    · exact .distant value x number read far

/-- A text is stray when the moment that it writes has no universal time, or when the reader of free
form breaks at it. -/
theorem isStray_text_iff {s : String} : (Value.text s).IsStray freeForm zone ↔
    (trim s.toList).isEmpty = false ∧
      ((∃ m, Iso.read? (Moment.withZeroOffset (trim s.toList)) = some m ∧
          (m.orZone zone).isShort ∧ ¬ (m.orZone zone).HasUtc) ∨
        (Iso.read? (Moment.withZeroOffset (trim s.toList)) = none ∧
          ((∃ m, freeForm (trim s.toList) = .ok m ∧
              (m.orZone zone).isShort ∧ ¬ (m.orZone zone).HasUtc) ∨
            ∃ fault, freeForm (trim s.toList) = .error fault ∧
              fault.kind.isUnreadable = false))) := by
  constructor
  · rintro (⟨_, _, written, short, missing⟩ | ⟨_, fault, filled, other, failed, apart⟩ |
      ⟨_, number, _⟩ | ⟨_, _, number, _, _⟩)
    · cases written with
      | standard _ m filled read => exact ⟨filled, .inl ⟨m, read, short, missing⟩⟩
      | free _ m filled other read =>
          exact ⟨filled, .inr ⟨other, .inl ⟨m, read, short, missing⟩⟩⟩
    · exact ⟨filled, .inr ⟨other, .inr ⟨fault, failed, apart⟩⟩⟩
    · exact number.elim
    · exact number.elim
  · rintro ⟨filled, ⟨m, read, short, missing⟩ |
      ⟨other, ⟨m, read, short, missing⟩ | ⟨fault, failed, apart⟩⟩⟩
    · exact .outside _ _ (.standard s m filled read) short missing
    · exact .outside _ _ (.free s m filled other read) short missing
    · exact .broken s fault filled other failed apart

theorem FaultKind.ne_value_of_not_isUnreadable {kind : FaultKind}
    (apart : kind.isUnreadable = false) : kind ≠ .value := by
  rintro rfl
  cases apart

theorem ofText_answers {s : String} (filled : (trim s.toList).isEmpty = false) :
    Answers ((Value.text s).IsStray freeForm zone) (Moment.ofText freeForm zone s) := by
  rw [Moment.ofText]
  cases standard : Iso.read? (Moment.withZeroOffset (trim s.toList)) with
  | some m =>
      refine (Moment.toUtc_answers (m.orZone zone)).congr ?_
      simp [isStray_text_iff, filled, standard]
  | none =>
      cases free : freeForm (trim s.toList) with
      | ok m =>
          refine (Moment.toUtc_answers (m.orZone zone)).congr ?_
          simp [isStray_text_iff, filled, standard, free]
      | error fault =>
          cases kind : fault.kind.isUnreadable with
          | true =>
              simp only [kind, ↓reduceIte]
              refine .refused _ rfl ?_
              simp [isStray_text_iff, standard, free, kind]
          | false =>
              simp only [kind, Bool.false_eq_true, ↓reduceIte]
              refine .strayed _ (FaultKind.ne_value_of_not_isUnreadable kind) ?_
              simp [isStray_text_iff, filled, standard, free, kind]

theorem toBinary64_ne_unsupported {value : Value} (number : value.IsNumber) :
    value.toBinary64 ≠ .error .unsupported := by
  cases value with
  | int n =>
      rw [toBinary64]
      split <;> simp
  | float x => simp [toBinary64]
  | decimal d =>
      cases d with
      | finite => simp [toBinary64]
      | infinite => simp [toBinary64]
      | nan negative signaling payload => cases signaling <;> simp [toBinary64]
  | _ => exact number.elim

theorem number_answers {value : Value} (number : value.IsNumber) :
    Answers (value.IsStray freeForm zone) (do Moment.ofNumber (← value.number)) := by
  rw [Value.number]
  cases read : value.toBinary64 with
  | ok x =>
      refine (Moment.ofNumber_answers x).congr ?_
      simp [isStray_number_iff number, read]
  | error cause =>
      cases cause with
      | invalid =>
          refine .refused _ rfl ?_
          simp [isStray_number_iff number, read]
      | tooLarge =>
          refine .strayed _ (by decide) ?_
          simp [isStray_number_iff number, read]
      | unsupported => exact absurd read (toBinary64_ne_unsupported number)

theorem number_bind (value : Value) :
    (do some <$> Moment.ofNumber (← value.number) : Except Fault (Option Moment)) =
      some <$> (do Moment.ofNumber (← value.number)) := by
  cases value.number <;> rfl

/-- A value other than a number, a text, a date or a moment is not stray. -/
theorem not_isStray_of_other {value : Value} (number : ¬ value.IsNumber)
    (other : ∀ m, ¬ value.Writes freeForm zone m) (text : ∀ s, value ≠ .text s) :
    ¬ value.IsStray freeForm zone := by
  rintro (⟨_, m, written, _, _⟩ | _ | ⟨_, is, _⟩ | ⟨_, _, is, _, _⟩)
  · exact other m written
  · exact text _ rfl
  · exact number is
  · exact number is

theorem toMoment?_cases (freeForm : FreeForm) (zone : Zone) (value : Value) :
    (value.toMoment? freeForm zone = .ok none ∧ ¬ value.IsStray freeForm zone) ∨
      ∃ result, value.toMoment? freeForm zone = some <$> result ∧
        Answers (value.IsStray freeForm zone) result := by
  cases value with
  | null =>
      exact .inl ⟨rfl, not_isStray_of_other id (fun _ written => nomatch written) (by simp)⟩
  | text s =>
      rw [toMoment?]
      cases filled : (trim s.toList).isEmpty with
      | true =>
          refine .inl ⟨rfl, fun strays => ?_⟩
          rw [isStray_text_iff, filled] at strays
          cases strays.1
      | false => exact .inr ⟨_, rfl, ofText_answers filled⟩
  | moment m =>
      exact .inr ⟨_, rfl, (Moment.toUtc_answers (m.orZone zone)).congr isStray_moment_iff.symm⟩
  | date d => exact .inr ⟨_, rfl, (Moment.toUtc_answers _).congr isStray_date_iff.symm⟩
  | int n => exact .inr ⟨_, number_bind _, number_answers trivial⟩
  | decimal d => exact .inr ⟨_, number_bind _, number_answers trivial⟩
  | float x => exact .inr ⟨_, number_bind (.float x), number_answers trivial⟩
  | _ =>
      refine .inr ⟨.error (.notTimestamp _), rfl, .refused _ rfl ?_⟩
      exact not_isStray_of_other id (fun _ written => nomatch written) (by simp)

/-- Stray values are those whose reading fails and is no failure of the value. -/
theorem isStray_iff {value : Value} : value.IsStray freeForm zone ↔
    ∃ fault, value.toMoment? freeForm zone = .error fault ∧ fault.kind ≠ .value := by
  rcases toMoment?_cases freeForm zone value with ⟨none, tame⟩ | ⟨result, read, answers⟩
  · simp [none, tame]
  · rw [read]
    cases answers with
    | read m utc tame => exact iff_of_false tame fun ⟨_, failed, _⟩ => nomatch failed
    | refused fault kind tame =>
        refine iff_of_false tame ?_
        rintro ⟨_, ⟨⟩, other⟩
        exact other kind
    | strayed fault kind strays => exact iff_of_true strays ⟨fault, rfl, kind⟩

/-- A value is read as a moment by the clock of universal time. -/
theorem zone_of_toMoment? {value : Value} {m : Moment}
    (done : value.toMoment? freeForm zone = .ok (some m)) : m.zone = some .utc := by
  rcases toMoment?_cases freeForm zone value with ⟨none, _⟩ | ⟨result, read, answers⟩
  · rw [none] at done
    cases done
  · rw [read] at done
    cases answers with
    | read found utc _ =>
        obtain rfl := Option.some.inj (Except.ok.inj done)
        exact utc
    | refused => cases done
    | strayed => cases done

end Value

end AuditTrail
