import AuditTrail.Number.Integer
import AuditTrail.Proofs.Text.Blank

/-!
# Numbers from digits

Characters that stand for digits are of two kinds.  From a run of decimal digits a number is read
unless there are too many of them, and no number is read from a run with any other digit.
-/

namespace AuditTrail.Text

theorem exists_start_of_decimalValueIn? {zeros : List Nat} {point value : Nat}
    (found : decimalValueIn? zeros point = some value) :
    ∃ start ∈ zeros, value < 10 ∧ point = start + value := by
  induction zeros with
  | nil => cases found
  | cons start rest ih =>
      rw [decimalValueIn?] at found
      split at found
      · cases found
      · split at found
        · next bounds =>
            obtain rfl := Option.some.inj found
            exact ⟨start, List.mem_cons_self, by omega, by omega⟩
        · obtain ⟨other, member, place⟩ := ih found
          exact ⟨other, List.mem_cons_of_mem start member, place⟩

/-- The ranges of all digits. -/
def digitRanges : List (Nat × Nat) :=
  decimalZeros.map (fun start => (start, start + 9)) ++ otherDigitRanges

theorem exists_range_of_isDigit {c : Char} (digit : isDigit c = true) :
    ∃ range ∈ digitRanges, range.1 ≤ c.toNat ∧ c.toNat ≤ range.2 := by
  rw [isDigit, Bool.or_eq_true] at digit
  rcases digit with decimal | other
  · obtain ⟨value, found⟩ := Option.isSome_iff_exists.mp decimal
    obtain ⟨start, member, small, place⟩ := exists_start_of_decimalValueIn? found
    refine ⟨(start, start + 9), ?_, by simp only; omega, by simp only; omega⟩
    exact List.mem_append_left _ (List.mem_map_of_mem member)
  · obtain ⟨range, member, bounds⟩ := exists_mem_of_inRanges other
    exact ⟨range, List.mem_append_right _ member, bounds⟩

/-- What holds of every character of the ranges holds of every digit. -/
theorem forall_digit {p : Char → Prop}
    (table : ∀ range ∈ digitRanges, ∀ offset < range.2 + 1 - range.1,
      p (Char.ofNat (range.1 + offset)))
    {c : Char} (digit : isDigit c = true) : p c := by
  obtain ⟨range, member, above, below⟩ := exists_range_of_isDigit digit
  have entry := table range member (c.toNat - range.1) (by omega)
  rwa [Nat.add_sub_cancel' above, Char.ofNat_toNat] at entry

theorem isDigit_of_isDecimal {c : Char} (decimal : isDecimal c = true) : isDigit c = true := by
  rw [isDigit, decimal, Bool.true_or]

/-- No blank, no sign and no underscore is a digit. -/
theorem plain_of_isDigit {c : Char} (digit : isDigit c = true) :
    isBlankAroundNumber c = false ∧ c ≠ '-' ∧ c ≠ '+' ∧ c ≠ '_' :=
  forall_digit (p := fun c => isBlankAroundNumber c = false ∧ c ≠ '-' ∧ c ≠ '+' ∧ c ≠ '_')
    (by decide +kernel) digit

end AuditTrail.Text

namespace AuditTrail

open Text

/-- A text of digits of any kind. -/
def IsNumeric (text : List Char) : Prop := text ≠ [] ∧ ∀ c ∈ text, isDigit c = true

/-- A text of decimal digits that a number is read from. -/
def IsNumeral (text : List Char) : Prop :=
  text ≠ [] ∧ (∀ c ∈ text, isDecimal c = true) ∧ text.length ≤ maxReadDigits

/-- The number that the decimal digits of a text write. -/
def decimalNumber (text : List Char) : Nat := ofDigits (text.filterMap decimalValue?)

theorem IsNumeral.isNumeric {text : List Char} (numeral : IsNumeral text) : IsNumeric text :=
  ⟨numeral.1, fun c member => isDigit_of_isDecimal (numeral.2.1 c member)⟩

theorem digitRun?_of_isDecimal {text : List Char} (filled : text ≠ [])
    (decimal : ∀ c ∈ text, isDecimal c = true) :
    digitRun? text = some (text.filterMap decimalValue?) := by
  induction text using digitRun?.induct with
  | case1 => exact absurd rfl filled
  | case2 c =>
      obtain ⟨value, found⟩ := Option.isSome_iff_exists.mp (decimal c List.mem_cons_self)
      simp [digitRun?, found]
  | case3 c rest ih =>
      have digit := isDigit_of_isDecimal (decimal '_' (by simp))
      exact absurd rfl (plain_of_isDigit digit).2.2.2
  | case4 c rest other under ih =>
      obtain ⟨value, found⟩ := Option.isSome_iff_exists.mp (decimal c List.mem_cons_self)
      have more : rest ≠ [] := by
        rintro rfl
        exact other rfl
      have later := ih more fun d member => decimal d (List.mem_cons_of_mem c member)
      rw [digitRun?.eq_4 c rest other under, found, later, List.filterMap_cons_some found]
      rfl

/-- A run of digits is read when all of its characters are decimal digits. -/
theorem isDecimal_of_digitRun? {text : List Char} {values : List Nat}
    (digits : ∀ c ∈ text, isDigit c = true) (read : digitRun? text = some values) :
    ∀ c ∈ text, isDecimal c = true := by
  induction text using digitRun?.induct generalizing values with
  | case1 => simp
  | case2 c =>
      rw [digitRun?, Option.map_eq_some_iff] at read
      obtain ⟨value, found, -⟩ := read
      simp [isDecimal, found]
  | case3 c rest ih =>
      exact absurd rfl (plain_of_isDigit (digits '_' (by simp))).2.2.2
  | case4 c rest other under ih =>
      rw [digitRun?.eq_4 c rest other under] at read
      simp only [Option.bind_eq_bind, Option.bind_eq_some_iff] at read
      obtain ⟨value, found, more, later, -⟩ := read
      intro d member
      rcases List.mem_cons.mp member with rfl | older
      · rw [isDecimal, found, Option.isSome_some]
      · exact ih (fun d old => digits d (List.mem_cons_of_mem c old)) later d older

theorem trimBy_of_isNumeric {text : List Char} (numeric : IsNumeric text) :
    trimBy isBlankAroundNumber text = text :=
  trimBy_eq_self
    (fun c head => (plain_of_isDigit (numeric.2 c (List.mem_of_mem_head? head))).1)
    (fun c last => (plain_of_isDigit (numeric.2 c (List.mem_of_getLast? last))).1)

theorem splitSign_of_isNumeric {text : List Char} (numeric : IsNumeric text) :
    splitSign text = (false, text) := by
  rw [splitSign.eq_def]
  split
  · exact absurd rfl (plain_of_isDigit (numeric.2 '-' List.mem_cons_self)).2.1
  · exact absurd rfl (plain_of_isDigit (numeric.2 '+' List.mem_cons_self)).2.2.1
  · rfl

theorem readInteger?_of_isNumeric {text : List Char} (numeric : IsNumeric text) :
    readInteger? text = (digitRun? text).bind fun values =>
      if values.length ≤ maxReadDigits then some (ofDigits values : Int) else none := by
  rw [readInteger?, trimBy_of_isNumeric numeric, splitSign_of_isNumeric numeric]
  rfl

/-- A numeral has its number. -/
theorem readInteger?_of_isNumeral {text : List Char} (numeral : IsNumeral text) :
    readInteger? text = some (decimalNumber text : Int) := by
  obtain ⟨filled, decimal, short⟩ := numeral
  have long : (text.filterMap decimalValue?).length = text.length :=
    List.filterMap_length_eq_length.mpr decimal
  rw [readInteger?_of_isNumeric (IsNumeral.isNumeric ⟨filled, decimal, short⟩),
    digitRun?_of_isDecimal filled decimal, Option.bind_some, long, if_pos short]
  rfl

/-- From digits that are no numeral, no number is read. -/
theorem readInteger?_eq_none {text : List Char} (numeric : IsNumeric text)
    (stray : ¬ IsNumeral text) : readInteger? text = none := by
  rw [readInteger?_of_isNumeric numeric, Option.bind_eq_none_iff]
  intro values read
  have decimal := isDecimal_of_digitRun? numeric.2 read
  have same : values = text.filterMap decimalValue? := by
    rw [digitRun?_of_isDecimal numeric.1 decimal] at read
    exact (Option.some.inj read).symm
  have long : values.length = text.length := by
    rw [same]
    exact List.filterMap_length_eq_length.mpr decimal
  rw [if_neg]
  intro short
  exact stray ⟨numeric.1, decimal, long ▸ short⟩

end AuditTrail
