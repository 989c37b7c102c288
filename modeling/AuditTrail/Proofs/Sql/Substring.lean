import AuditTrail.Proofs.Sql.Like
import AuditTrail.Proofs.Sql.Meaning

/-!
# What a term finds

The term of a condition stands in its pattern as it is, between two signs for any run.  The cells
that are found are those that contain the term, letter case ignored, only when no character of
the term is a sign of patterns itself.
-/

namespace AuditTrail.Sql

open Text Query

/-- A store that matches patterns by their rules, and ignores letter case by some folding. -/
structure Database.IsMatching {ρ : Type} (database : Database ρ) (letters : Folding) : Prop where
  like_eq : database.like = fitsPattern
  ilike_eq : database.ilike = letters.fits

/-- The columns that a term is looked up in. -/
def columnsOf (condition : Condition) : List Column :=
  match condition.column with
  | none => Column.freeText
  | some name => (Column.ofName? name).toList

/-- Whether a term finds a text of a column.  A number is also found when it is the term. -/
def Finds (letters : Folding) (column : Column) (term text : List Char) : Prop :=
  match column with
  | .id => text = term ∨ fitsPattern text (containsPattern term) = true
  | _ => letters.fits text (containsPattern term) = true

/-- Whether a text of a column contains a term.  The digits of numbers have no letter case. -/
def Contains (letters : Folding) (column : Column) (term text : List Char) : Prop :=
  match column with
  | .id => term <:+: text
  | _ => letters.text term <:+: letters.text text

theorem finds_of_ne {letters : Folding} {column : Column} (other : column ≠ .id)
    (term text : List Char) :
    Finds letters column term text ↔ letters.fits text (containsPattern term) = true := by
  cases column <;> first | exact absurd rfl other | exact Iff.rfl

theorem contains_of_ne {letters : Folding} {column : Column} (other : column ≠ .id)
    (term text : List Char) :
    Contains letters column term text ↔ letters.text term <:+: letters.text text := by
  cases column <;> first | exact absurd rfl other | exact Iff.rfl

theorem finds_iff_contains (letters : Folding) (column : Column) {term : List Char} :
    (∀ text, Finds letters column term text ↔ Contains letters column term text) ↔
      IsLiteral term := by
  by_cases number : column = .id
  · subst number
    constructor
    · intro finds
      exact isLiteral_of_isInfix_sample <|
        (finds (sample term)).mp (.inr (fitsPattern_sample term))
    · intro literal text
      have pattern := fitsPattern_containsPattern literal text
      constructor
      · rintro (rfl | fits)
        · exact List.infix_rfl
        · exact pattern.mp fits
      · exact fun contains => .inr (pattern.mpr contains)
  · simp only [finds_of_ne number, contains_of_ne number]
    exact letters.fits_containsPattern_iff

section Rows

variable {ρ : Type} {database : Database ρ} {letters : Folding}

theorem Database.IsMatching.fits_iff (rules : database.IsMatching letters) (row : ρ)
    {column : Column} (other : column ≠ .id) (term : List Char) :
    database.fits row column .ilike (containsPattern term) = true ↔
      ∃ text ∈ database.text row column, Finds letters column term text := by
  simp only [Database.fits, Option.any_eq_true, Database.compares, rules.ilike_eq,
    finds_of_ne other, Option.mem_def]

theorem Database.IsMatching.fits_number_iff (rules : database.IsMatching letters) (row : ρ)
    (term : List Char) :
    (database.fits row .id .equal term || database.fits row .id .like (containsPattern term)) =
        true ↔
      ∃ text ∈ database.text row .id, Finds letters .id term text := by
  simp only [Bool.or_eq_true, Database.fits, Option.any_eq_true, Database.compares, rules.like_eq,
    Finds, Option.mem_def, beq_iff_eq, and_or_left, exists_or]

/-- A condition is met by the rows with a cell that its term finds. -/
theorem Database.IsMatching.meets_iff (rules : database.IsMatching letters) (row : ρ)
    (condition : Condition) :
    database.meets row condition = true ↔
      ∃ column ∈ columnsOf condition, ∃ text ∈ database.text row column,
        Finds letters column condition.term text := by
  obtain ⟨named, term, operator⟩ := condition
  cases named with
  | none =>
      have plain : ∀ column ∈ Column.freeText, column ≠ .id := by decide
      simp only [Database.meets, columnsOf, List.any_eq_true]
      refine exists_congr fun column => and_congr_right fun member => ?_
      exact rules.fits_iff row (plain column member) term
  | some name =>
      cases known : Column.ofName? name with
      | none => simp [Database.meets, columnsOf, known]
      | some column =>
          by_cases number : column = .id
          · subst number
            simp only [Database.meets, columnsOf, known, Option.toList_some, List.mem_singleton,
              exists_eq_left]
            exact rules.fits_number_iff row term
          · simp only [Database.meets, columnsOf, known, Option.toList_some, List.mem_singleton,
              exists_eq_left]
            exact rules.fits_iff row number term

/-- The operand of a condition selects the rows with a cell that the term finds in one of the
columns of the condition.  What the term finds is what contains it, whatever the cell, exactly
when no character of the term is a sign of patterns. -/
theorem operand_finds (rules : database.IsMatching letters) {index : Nat} {condition : Condition}
    {made : Operand} {own : Bindings} (built : operand index condition = .ok (made, own)) :
    ∃ formula, IsFactor (tokens made.text) formula ∧
      (∀ (row : ρ) (all : Bindings), Bound all own →
        (database.holds row all formula = true ↔
          ∃ column ∈ columnsOf condition, ∃ text ∈ database.text row column,
            Finds letters column condition.term text)) ∧
      ∀ column, (∀ text, Finds letters column condition.term text ↔
        Contains letters column condition.term text) ↔ IsLiteral condition.term := by
  obtain ⟨formula, factor, meaning⟩ := operand_meaning built
  refine ⟨formula, factor, fun row all bound => ?_, fun column => finds_iff_contains letters column⟩
  rw [meaning database row all bound]
  exact rules.meets_iff row condition

end Rows

/-- A database whose cells all hold one text. -/
def uniform (cell : List Char) : Database Unit where
  text _ _ := some cell
  instant _ _ := none
  instantOf _ := 0
  like := fitsPattern
  ilike := Folding.lower.fits
  found _ _ _ := none

theorem isMatching_uniform (cell : List Char) : (uniform cell).IsMatching .lower := ⟨rfl, rfl⟩

/-- The condition `user_name:a_b`. -/
def underscored : Condition := ⟨some "user_name".toList, "a_b".toList, none⟩

theorem operand_underscored :
    operand 0 underscored = .ok (.single ⟨.userName, .ilike, parameterName 0⟩,
      [bindText (parameterName 0) (containsPattern "a_b".toList)]) := rfl

theorem operand_finds_underscored :
    (uniform "axb".toList).IsMatching .lower ∧
    operand 0 underscored = .ok (.single ⟨.userName, .ilike, parameterName 0⟩,
      [bindText (parameterName 0) (containsPattern "a_b".toList)]) ∧
    ∃ formula,
      IsFactor (tokens (Operand.single ⟨.userName, .ilike, parameterName 0⟩).text) formula ∧
      (∀ (row : Unit) (all : Bindings),
        Bound all [bindText (parameterName 0) (containsPattern "a_b".toList)] →
        ((uniform "axb".toList).holds row all formula = true ↔
          ∃ column ∈ columnsOf underscored, ∃ text ∈ (uniform "axb".toList).text row column,
            Finds .lower column underscored.term text)) ∧
      ∀ column, (∀ text, Finds .lower column underscored.term text ↔
        Contains .lower column underscored.term text) ↔ IsLiteral underscored.term :=
  ⟨isMatching_uniform _, operand_underscored,
    operand_finds (isMatching_uniform _) operand_underscored⟩

/-- A term with an underscore finds a cell that does not contain it. -/
theorem operand_finds_stranger :
    ∃ formula,
      IsFactor (tokens (Operand.single ⟨.userName, .ilike, parameterName 0⟩).text) formula ∧
      (uniform "axb".toList).holds ()
        [bindText (parameterName 0) (containsPattern "a_b".toList)] formula = true ∧
      ¬ lower "a_b".toList <:+: lower "axb".toList := by
  obtain ⟨formula, factor, meaning⟩ := operand_meaning operand_underscored
  refine ⟨formula, factor, ?_, by decide +kernel⟩
  rw [meaning _ _ _ (.of_nodup (by simp [names]))]
  decide +kernel

end AuditTrail.Sql
