import AuditTrail.Calendar.IsoReader
import AuditTrail.Proofs.Text.Blank
import Mathlib.Algebra.Order.Group.Nat
import Mathlib.Algebra.Order.Ring.Nat

/-!
# Written times of day

A time of day is written with or without colons, up to its hour, its minute or its second, with a
fraction or without one, and an offset may follow.  What is written is read back, whatever stands
behind it.
-/

namespace AuditTrail

open Text

theorem length_padded {width n : Nat} (wide : 0 < width) (fits : n < 10 ^ width) :
    (padded width n).length = width := by
  have short := (Nat.length_toDigits_le_iff (by decide) wide).mpr fits
  rw [padded, List.length_append, List.length_replicate]
  omega

theorem isDigit_of_mem_padded {width n : Nat} {c : Char} (member : c ∈ padded width n) :
    c.isDigit = true := by
  rcases List.mem_append.mp member with zero | digit
  · rw [List.eq_of_mem_replicate zero]
    decide
  · exact Nat.isDigit_of_mem_toDigits (by decide) (by decide) digit

theorem ofDigitChars_padded (width n : Nat) : Nat.ofDigitChars 10 (padded width n) 0 = n := by
  rw [padded, Nat.ofDigitChars_append, Nat.ofDigitChars_replicate_zero, Nat.mul_zero,
    Nat.ofDigitChars_ten_toDigits]

theorem toNat_of_isDigit {c : Char} (digit : c.isDigit = true) :
    0x30 ≤ c.toNat ∧ c.toNat ≤ 0x39 := by
  rw [Char.isDigit, Bool.and_eq_true, decide_eq_true_eq, decide_eq_true_eq] at digit
  exact digit

theorem ne_of_isDigit {c d : Char} (digit : c.isDigit = true) (other : d.isDigit = false) :
    c ≠ d := by
  rintro rfl
  rw [digit] at other
  cases other

/-- The number of a row of digits has at most as many places. -/
theorem ofDigitChars_lt {digits : List Char} (all : ∀ c ∈ digits, c.isDigit = true) :
    Nat.ofDigitChars 10 digits 0 < 10 ^ digits.length := by
  induction digits with
  | nil => simp
  | cons c rest ih =>
      have digit := toNat_of_isDigit (all c List.mem_cons_self)
      have later := ih fun d member => all d (List.mem_cons_of_mem c member)
      rw [Nat.ofDigitChars_cons, Nat.ofDigitChars_eq_ofDigitChars_zero, List.length_cons, pow_succ]
      have top : c.toNat - '0'.toNat ≤ 9 := by
        rw [show '0'.toNat = 0x30 from rfl]
        omega
      have place := Nat.mul_le_mul_left (10 ^ rest.length) top
      rw [Nat.mul_zero, Nat.zero_add]
      omega

namespace Iso

/-- A row of digits is read as the number that it writes. -/
theorem number?_digits {digits : List Char} (all : ∀ c ∈ digits, c.isDigit = true) (value : Nat)
    (rest : List Char) :
    number? digits.length value (digits ++ rest) =
      some (Nat.ofDigitChars 10 digits value, rest) := by
  induction digits generalizing value with
  | nil => rfl
  | cons c more ih =>
      have digit := all c List.mem_cons_self
      have later := ih (fun d member => all d (List.mem_cons_of_mem c member))
        (value * 10 + (c.toNat - 0x30))
      simp only [List.length_cons, number?, List.cons_append, digit?, digit, ↓reduceIte,
        List.tail_cons, Option.bind_eq_bind, Option.bind_some]
      rw [later, Nat.ofDigitChars_cons, Nat.mul_comm value]
      rfl

theorem number?_padded {width n : Nat} (wide : 0 < width) (fits : n < 10 ^ width)
    (rest : List Char) : number? width 0 (padded width n ++ rest) = some (n, rest) := by
  have all : ∀ c ∈ padded width n, c.isDigit = true := fun _ => isDigit_of_mem_padded
  have read := number?_digits all 0 rest
  rwa [length_padded wide fits, ofDigitChars_padded] at read

theorem pair?_padded {n : Nat} (fits : n < 100) (rest : List Char) :
    pair? (padded 2 n ++ rest) = some (n, rest) :=
  number?_padded (by decide) fits rest

/-- A text goes on with a digit. -/
def StartsWithDigit (text : List Char) : Prop := ∃ c rest, text = c :: rest ∧ c.isDigit = true

theorem startsWithDigit_padded (width n : Nat) (rest : List Char) :
    StartsWithDigit (padded width n ++ rest) := by
  cases digits : padded width n with
  | nil => exact absurd (List.append_eq_nil_iff.mp digits).2 Nat.toDigits_ne_nil
  | cons c more =>
      exact ⟨c, more ++ rest, rfl, isDigit_of_mem_padded (digits ▸ List.mem_cons_self)⟩

/-- The microseconds in a fraction of a second; places below them are dropped. -/
def microsecondsOf (digits : List Char) : Nat :=
  Nat.ofDigitChars 10 digits 0 * 10 ^ 6 / 10 ^ digits.length

theorem microsecondsOf_lt {digits : List Char} (all : ∀ c ∈ digits, c.isDigit = true) :
    microsecondsOf digits < microsecondsPerSecond := by
  rw [microsecondsOf, Nat.div_lt_iff_lt_mul (Nat.pow_pos (by decide)), Nat.mul_comm]
  exact Nat.mul_lt_mul_of_pos_left (ofDigitChars_lt all) (by decide)

/-- The first six places count. -/
theorem microsecondsOf_eq {digits : List Char} (all : ∀ c ∈ digits, c.isDigit = true) :
    microsecondsOf digits =
      Nat.ofDigitChars 10 (digits.take 6) 0 * 10 ^ (6 - min digits.length 6) := by
  rw [microsecondsOf]
  rcases Nat.le_total digits.length 6 with short | long
  · rw [List.take_of_length_le short, Nat.min_eq_left short]
    have places : 10 ^ 6 = 10 ^ (6 - digits.length) * 10 ^ digits.length := by
      rw [← pow_add, Nat.sub_add_cancel short]
    rw [places, ← Nat.mul_assoc, Nat.mul_div_cancel _ (Nat.pow_pos (by decide))]
  · have split : Nat.ofDigitChars 10 digits 0 =
        10 ^ (digits.drop 6).length * Nat.ofDigitChars 10 (digits.take 6) 0 +
          Nat.ofDigitChars 10 (digits.drop 6) 0 := by
      conv_lhs => rw [← List.take_append_drop 6 digits, Nat.ofDigitChars_append]
      exact Nat.ofDigitChars_eq_ofDigitChars_zero
    have dropped : ∀ c ∈ digits.drop 6, c.isDigit = true := fun c member =>
      all c (List.mem_of_mem_drop member)
    have below := ofDigitChars_lt dropped
    have places : 10 ^ digits.length = 10 ^ (digits.drop 6).length * 10 ^ 6 := by
      rw [← pow_add, List.length_drop, Nat.sub_add_cancel long]
    rw [Nat.min_eq_right long, Nat.sub_self, pow_zero, Nat.mul_one, places,
      Nat.mul_div_mul_right _ _ (by decide), split, Nat.mul_add_div (Nat.pow_pos (by decide)),
      Nat.div_eq_of_lt below, Nat.add_zero]

/-- Nothing more of a row of digits stands at the start of a text. -/
def EndsDigits (text : List Char) : Prop := ∀ c ∈ text.head?, c.isDigit = false

theorem dropWhile_isDigit {digits rest : List Char} (all : ∀ c ∈ digits, c.isDigit = true)
    (ends : EndsDigits rest) : (digits ++ rest).dropWhile Char.isDigit = rest := by
  rw [List.dropWhile_append_of_pos all]
  cases rest with
  | nil => rfl
  | cons c more => rw [List.dropWhile_cons_of_neg (by simp [ends c rfl])]

theorem fraction?_digits {digits rest : List Char} (all : ∀ c ∈ digits, c.isDigit = true)
    (ends : EndsDigits rest) :
    fraction? digits.length (digits ++ rest) = some (microsecondsOf digits, rest) := by
  have taken : ∀ c ∈ digits.take 6, c.isDigit = true := fun c member =>
    all c (List.mem_of_mem_take member)
  have dropped : ∀ c ∈ digits.drop 6, c.isDigit = true := fun c member =>
    all c (List.mem_of_mem_drop member)
  have front := number?_digits taken 0 (digits.drop 6 ++ rest)
  rw [List.length_take, Nat.min_comm, ← List.append_assoc, List.take_append_drop] at front
  rw [fraction?, front, microsecondsOf_eq all]
  simp only [Option.bind_eq_bind, Option.bind_some, dropWhile_isDigit dropped ends]
  rfl

/-- A sign between parts, where it is written. -/
def mark (written : Bool) (sign : Char) : List Char := if written then [sign] else []

theorem after_nil (colons : Bool) (tail : List Char) :
    after colons 0 tail = .finished (atEnd tail) := by
  cases tail <;> rfl

/-- Behind the sign between parts the next part is read. -/
theorem after_mark {colons : Bool} {count : Nat} {text : List Char} (more : 2 ≤ count)
    (part : StartsWithDigit text) : after colons count (mark colons ':' ++ text) = .part text := by
  obtain ⟨c, rest, rfl, digit⟩ := part
  have plain := toNat_of_isDigit digit
  have point := ne_of_isDigit digit (d := '.') (by decide)
  have comma := ne_of_isDigit digit (d := ',') (by decide)
  cases colons with
  | true =>
      simp [after, mark, show count ≠ 0 by omega, show count ≠ 1 by omega]
  | false =>
      simp [after, mark, show count ≠ 0 by omega, show count ≠ 1 by omega, point, comma,
        show ¬ 128 ≤ c.toNat by omega]

/-- A sign before a fraction. -/
def IsPoint (c : Char) : Prop := c = '.' ∨ c = ','

theorem after_point {colons : Bool} {point : Char} {count : Nat} (more : 2 ≤ count)
    (is : IsPoint point) (text : List Char) :
    after colons count (point :: text) = .fraction text := by
  rcases is with rfl | rfl <;>
    simp [after, show count ≠ 0 by omega, show count ≠ 1 by omega]

/-- The text behind the last part of a time of day, and the microseconds that it writes.  A
fraction is one of a second, whichever part it follows. -/
inductive WritesFraction : List Char → Nat → Prop where
  | none : WritesFraction [] 0
  | digits {point : Char} {digits : List Char} (is : IsPoint point) (filled : digits ≠ [])
      (all : ∀ c ∈ digits, c.isDigit = true) :
      WritesFraction (point :: digits) (microsecondsOf digits)

/-- The text of a time of day, with or without colons. -/
inductive WritesClock : List Char → Clock → Prop where
  | hour {hour micro : Nat} {fraction : List Char} (hours : hour < 24)
      (rest : WritesFraction fraction micro) :
      WritesClock (padded 2 hour ++ fraction) ⟨hour, 0, 0, micro⟩
  | minute (colons : Bool) {hour minute micro : Nat} {fraction : List Char} (hours : hour < 24)
      (minutes : minute < 60) (rest : WritesFraction fraction micro) :
      WritesClock (padded 2 hour ++ (mark colons ':' ++ (padded 2 minute ++ fraction)))
        ⟨hour, minute, 0, micro⟩
  | second (colons : Bool) {hour minute second micro : Nat} {fraction : List Char}
      (hours : hour < 24) (minutes : minute < 60) (seconds : second < 60)
      (rest : WritesFraction fraction micro) :
      WritesClock
        (padded 2 hour ++ (mark colons ':' ++ (padded 2 minute ++ (mark colons ':' ++
          (padded 2 second ++ fraction)))))
        ⟨hour, minute, second, micro⟩

/-- The characters of a time of day. -/
def IsClockChar (c : Char) : Prop := c.isDigit = true ∨ c = ':' ∨ IsPoint c

theorem WritesFraction.isClockChar {text : List Char} {micro : Nat}
    (written : WritesFraction text micro) {c : Char} (member : c ∈ text) : IsClockChar c := by
  cases written with
  | none => cases member
  | digits is filled all =>
      rcases List.mem_cons.mp member with rfl | digit
      · exact .inr (.inr is)
      · exact .inl (all c digit)

theorem WritesClock.isClockChar {text : List Char} {clock : Clock}
    (written : WritesClock text clock) {c : Char} (member : c ∈ text) : IsClockChar c := by
  have digit {n : Nat} : c ∈ padded 2 n → IsClockChar c := fun inside =>
    .inl (isDigit_of_mem_padded inside)
  have colon {written : Bool} : c ∈ mark written ':' → IsClockChar c := fun inside => by
    cases written <;> simp_all [mark, IsClockChar]
  cases written <;> simp only [List.mem_append] at member
  case hour rest => exact member.elim digit rest.isClockChar
  case minute rest =>
    exact member.elim digit fun member => member.elim colon fun member =>
      member.elim digit rest.isClockChar
  case second rest =>
    exact member.elim digit fun member => member.elim colon fun member => member.elim digit
      fun member => member.elim colon fun member => member.elim digit rest.isClockChar

theorem StartsWithDigit.head?_ne {text : List Char} (part : StartsWithDigit text) {sign : Char}
    (other : sign.isDigit = false) : text.head? ≠ some sign := by
  obtain ⟨c, rest, rfl, digit⟩ := part
  exact fun same => ne_of_isDigit digit other (Option.some.inj same)

/-- The sign between parts is seen in front of the next part. -/
theorem head?_mark (written : Bool) {sign : Char} {text : List Char}
    (other : text.head? ≠ some sign) :
    ((mark written sign ++ text).head? == some sign) = written := by
  cases written with
  | true => simp [mark]
  | false => simpa [mark] using other

section Reading

variable {fraction tail : List Char} {hour minute second micro : Nat}

theorem finishFraction?_digits {digits : List Char} (ends : EndsDigits tail)
    (all : ∀ c ∈ digits, c.isDigit = true) (clock : Clock) :
    finishFraction? clock ((digits ++ tail).length - tail.length) (digits ++ tail) =
      some ({ clock with microsecond := microsecondsOf digits }, atEnd tail) := by
  rw [finishFraction?, List.length_append, Nat.add_sub_cancel, fraction?_digits all ends]
  rfl

/-- Behind the last part the time of day ends, or its fraction is read. -/
theorem WritesFraction.after (written : WritesFraction fraction micro) (tail : List Char) :
    (micro = 0 ∧ ∀ colons,
        Iso.after colons ((fraction ++ tail).length - tail.length) (fraction ++ tail) =
          .finished (atEnd tail)) ∨
      ∃ digits, (∀ c ∈ digits, c.isDigit = true) ∧ micro = microsecondsOf digits ∧ ∀ colons,
        Iso.after colons ((fraction ++ tail).length - tail.length) (fraction ++ tail) =
          .fraction (digits ++ tail) := by
  rw [List.length_append, Nat.add_sub_cancel]
  cases written with
  | none => exact .inl ⟨rfl, fun colons => after_nil colons tail⟩
  | digits is filled all =>
      have more := Nat.succ_le_succ (List.length_pos_of_ne_nil filled)
      exact .inr ⟨_, all, rfl, fun colons => after_point more is _⟩

/-- Behind a part that is not the last one the next part is read. -/
theorem after_padded (colons : Bool) {n : Nat} {rest : List Char} (fits : n < 100)
    (longer : tail.length ≤ rest.length) :
    Iso.after colons ((mark colons ':' ++ (padded 2 n ++ rest)).length - tail.length)
        (mark colons ':' ++ (padded 2 n ++ rest)) =
      .part (padded 2 n ++ rest) := by
  refine after_mark ?_ (startsWithDigit_padded 2 n _)
  simp only [List.length_append, length_padded (by decide : 0 < 2) fits]
  omega

theorem seconds?_written (ends : EndsDigits tail) (colons : Bool) (seconds : second < 60)
    (rest : WritesFraction fraction micro) :
    seconds? ⟨hour, minute, 0, 0⟩ colons tail.length (padded 2 second ++ (fraction ++ tail)) =
      some (⟨hour, minute, second, micro⟩, atEnd tail) := by
  rw [seconds?, pair?_padded (by omega)]
  rcases rest.after tail with ⟨rfl, next⟩ | ⟨digits, all, rfl, next⟩
  · simp only [Option.bind_eq_bind, Option.bind_some, next]
  · simp only [Option.bind_eq_bind, Option.bind_some, next, finishFraction?_digits ends all]

theorem minutes?_written (ends : EndsDigits tail) (colons : Bool) (minutes : minute < 60)
    (rest : WritesFraction fraction micro) :
    minutes? ⟨hour, 0, 0, 0⟩ colons tail.length (padded 2 minute ++ (fraction ++ tail)) =
      some (⟨hour, minute, 0, micro⟩, atEnd tail) := by
  rw [minutes?, pair?_padded (by omega)]
  rcases rest.after tail with ⟨rfl, next⟩ | ⟨digits, all, rfl, next⟩
  · simp only [Option.bind_eq_bind, Option.bind_some, next]
  · simp only [Option.bind_eq_bind, Option.bind_some, next, finishFraction?_digits ends all]

theorem minutes?_seconds (ends : EndsDigits tail) (colons : Bool) (minutes : minute < 60)
    (seconds : second < 60) (rest : WritesFraction fraction micro) :
    minutes? ⟨hour, 0, 0, 0⟩ colons tail.length
        (padded 2 minute ++ (mark colons ':' ++ (padded 2 second ++ (fraction ++ tail)))) =
      some (⟨hour, minute, second, micro⟩, atEnd tail) := by
  rw [minutes?, pair?_padded (by omega)]
  simp only [Option.bind_eq_bind, Option.bind_some]
  rw [after_padded colons (by omega) (by simp)]
  exact seconds?_written ends colons seconds rest

end Reading

/-- A time of day is read back, whatever follows that is no digit. -/
theorem clock?_written {text tail : List Char} {clock : Clock} (written : WritesClock text clock)
    (ends : EndsDigits tail) :
    clock? tail.length (text ++ tail) = some (clock, atEnd tail) := by
  cases written with
  | hour hours rest =>
      rw [List.append_assoc, clock?, pair?_padded (by omega)]
      simp only [Option.bind_eq_bind, Option.bind_some]
      rcases rest.after tail with ⟨rfl, next⟩ | ⟨digits, all, rfl, next⟩
      · simp only [next]
      · simp only [next, finishFraction?_digits ends all]
  | minute colons hours minutes rest =>
      simp only [List.append_assoc]
      rw [clock?, pair?_padded (by omega)]
      simp only [Option.bind_eq_bind, Option.bind_some]
      rw [head?_mark colons ((startsWithDigit_padded 2 _ _).head?_ne (by decide)),
        after_padded colons (by omega) (by simp)]
      exact minutes?_written ends colons minutes rest
  | second colons hours minutes seconds rest =>
      simp only [List.append_assoc]
      rw [clock?, pair?_padded (by omega)]
      simp only [Option.bind_eq_bind, Option.bind_some]
      rw [head?_mark colons ((startsWithDigit_padded 2 _ _).head?_ne (by decide)),
        after_padded colons (by omega) (by simp; omega)]
      exact minutes?_seconds ends colons minutes seconds rest

/-- The text of an offset from universal time, or nothing. -/
inductive WritesOffset : List Char → Option Zone → Prop where
  | none : WritesOffset [] none
  | signed (negative : Bool) {text : List Char} {clock : Clock} {zone : Zone}
      (written : WritesClock text clock) (offset : zoneOf? negative clock = some zone) :
      WritesOffset ((if negative then '-' else '+') :: text) (some zone)

theorem IsClockChar.beginsOffset {c : Char} (char : IsClockChar c) : beginsOffset c = false := by
  rcases char with digit | rfl | rfl | rfl
  · have plus := ne_of_isDigit digit (d := '+') (by decide)
    have minus := ne_of_isDigit digit (d := '-') (by decide)
    have zulu := ne_of_isDigit digit (d := 'Z') (by decide)
    simp [Iso.beginsOffset, plus, minus, zulu]
  all_goals decide

theorem WritesOffset.endsDigits {tail : List Char} {zone : Option Zone}
    (offset : WritesOffset tail zone) : EndsDigits tail := by
  cases offset with
  | none => simp [EndsDigits]
  | signed negative => cases negative <;> simp [EndsDigits]

/-- A time of day and the offset behind it are read back. -/
theorem time?_written {text tail : List Char} {clock : Clock} {zone : Option Zone}
    (written : WritesClock text clock) (offset : WritesOffset tail zone) :
    time? (text ++ tail) = some (clock, zone) := by
  have inside : ∀ c ∈ text, (!beginsOffset c) = true := fun c member => by
    rw [(written.isClockChar member).beginsOffset, Bool.not_false]
  have read := clock?_written written offset.endsDigits
  rw [time?, List.dropWhile_append_of_pos inside]
  cases offset with
  | none =>
      simp only [List.dropWhile_nil, read, Option.bind_eq_bind, Option.bind_some, atEnd,
        ↓reduceIte]
  | @signed negative body own zone writtenOwn found =>
      have ownRead := clock?_written writtenOwn WritesOffset.none.endsDigits
      rw [List.append_nil, List.length_nil] at ownRead
      have kept : ((if negative then '-' else '+') :: body).dropWhile (!beginsOffset ·) =
          (if negative then '-' else '+') :: body := by
        cases negative <;> rfl
      rw [kept, read]
      cases negative <;> simp [ownRead, found, atEnd]

end Iso

end AuditTrail
