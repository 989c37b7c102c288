import AuditTrail.Query.TsQuery
import Mathlib.Data.List.SplitBy

/-!
# Text search expressions as the store reads them

An expression is made of words that end in `:*`, and of the signs `!`, `&` and `|`.  The signs
bind in this order, the first one most tightly, so an expression is read by splitting it at `|`
first and then at `&`.
-/

namespace AuditTrail.Query

open Text

/-- A word or a sign of a text search expression. -/
inductive Sign where
  | lexeme (word : List Char)
  | not
  | and
  | or
deriving DecidableEq, Repr

/-- The sign that a character is. -/
def Sign.ofChar? (c : Char) : Option Sign :=
  if c == '!' then some .not else if c == '&' then some .and
  else if c == '|' then some .or else none

/-- The signs of a text behind a word that has begun, given by its characters in reverse order. -/
def signsAfter : List Char → List Char → Option (List Sign)
  | [], begun => if begun.isEmpty then some [] else none
  | ':' :: '*' :: rest, begun =>
      if begun.isEmpty then none else (signsAfter rest []).map (.lexeme begun.reverse :: ·)
  | c :: rest, begun =>
      if isSearchable c then signsAfter rest (c :: begun)
      else if !begun.isEmpty then none
      else if isBlank c then signsAfter rest []
      else (Sign.ofChar? c).bind fun sign => (signsAfter rest []).map (sign :: ·)

/-- A word, or the negation of a factor. -/
inductive Factor where
  | lexeme (word : List Char)
  | not (factor : Factor)
deriving DecidableEq, Repr

namespace Factor

/-- The factor that some signs write. -/
def ofSigns? : List Sign → Option Factor
  | [.lexeme word] => some (.lexeme word)
  | .not :: rest => (ofSigns? rest).map .not
  | _ => none

/-- The truth of a factor, when it is known which words match. -/
def value (found : List Char → Bool) : Factor → Bool
  | lexeme word => found word
  | not factor => !factor.value found

end Factor

/-- An expression: alternatives, each with the factors that have to hold together. -/
abbrev Expression := List (List Factor)

namespace Expression

/-- The expression that some signs write. -/
def ofSigns? (signs : List Sign) : Option Expression :=
  (signs.splitOn .or).mapM fun group => (group.splitOn .and).mapM Factor.ofSigns?

/-- The expression that a text writes from its beginning to its end. -/
def read? (text : List Char) : Option Expression := (signsAfter text []).bind ofSigns?

/-- The truth of an expression, when it is known which words match. -/
def value (found : List Char → Bool) (expression : Expression) : Bool :=
  expression.any fun factors => factors.all (·.value found)

end Expression

/-- A text is read as some signs whatever comes behind it. -/
def Spells (text : List Char) (signs : List Sign) : Prop :=
  ∀ rest, signsAfter (text ++ rest) [] = (signsAfter rest []).map (signs ++ ·)

theorem Spells.append {left right : List Char} {leftSigns rightSigns : List Sign}
    (spellsLeft : Spells left leftSigns) (spellsRight : Spells right rightSigns) :
    Spells (left ++ right) (leftSigns ++ rightSigns) := by
  intro rest
  rw [List.append_assoc, spellsLeft, spellsRight, Option.map_map]
  simp [Function.comp_def]

theorem Spells.signs {text : List Char} {signs : List Sign} (spells : Spells text signs) :
    signsAfter text [] = some signs := by
  have alone := spells []
  simpa [signsAfter] using alone

theorem spells_nil : Spells [] [] := by
  intro rest
  simp

theorem spells_blank : Spells [' '] [] := by
  intro rest
  have step : signsAfter (' ' :: rest) [] = signsAfter rest [] := by
    rw [signsAfter]
    · rw [if_neg (by decide)]
      simp [show isBlank ' ' = true by decide]
    · simp
  simpa using step

theorem spells_sign {c : Char} {sign : Sign} (known : Sign.ofChar? c = some sign) :
    Spells [c] [sign] := by
  have written : c = '!' ∨ c = '&' ∨ c = '|' := by
    by_contra other
    simp only [not_or] at other
    simp [Sign.ofChar?, other.1, other.2.1, other.2.2] at known
  have plain : isSearchable c = false ∧ isBlank c = false ∧ c ≠ ':' := by
    rcases written with rfl | rfl | rfl <;> decide
  intro rest
  rw [List.singleton_append, signsAfter]
  · simp [plain, known]
  · intro tail same
    exact absurd same plain.2.2

theorem signsAfter_word {word : List Char} (begun rest : List Char)
    (searchable : ∀ c ∈ word, isSearchable c = true) (ne : begun.reverse ++ word ≠ []) :
    signsAfter (word ++ ':' :: '*' :: rest) begun =
      (signsAfter rest []).map (.lexeme (begun.reverse ++ word) :: ·) := by
  induction word generalizing begun with
  | nil =>
      have begun_ne : begun ≠ [] := by simpa using ne
      simp [signsAfter, begun_ne]
  | cons c word ih =>
      have here : isSearchable c = true := searchable c List.mem_cons_self
      have colon : c ≠ ':' := by
        rintro rfl
        exact absurd here (by decide)
      rw [List.cons_append, signsAfter]
      · rw [if_pos here, ih (c :: begun) (fun d inside => searchable d (by simp [inside]))
          (by simp)]
        simp
      · intro tail same
        exact absurd same colon

theorem spells_lexeme {word : List Char} (ne : word ≠ [])
    (searchable : ∀ c ∈ word, isSearchable c = true) : Spells (lexeme word) [.lexeme word] := by
  intro rest
  have step := signsAfter_word [] rest searchable (by simpa using ne)
  simpa [lexeme] using step

/-- Signs that write factors joined by `&`. -/
structure Reads (signs : List Sign) (factors : List Factor) : Prop where
  no_or : Sign.or ∉ signs
  factors_eq : (signs.splitOn .and).mapM Factor.ofSigns? = some factors

theorem reads_lexeme (word : List Char) : Reads [.lexeme word] [.lexeme word] :=
  ⟨by simp, rfl⟩

theorem reads_not_lexeme (word : List Char) : Reads [.not, .lexeme word] [.not (.lexeme word)] :=
  ⟨by simp, rfl⟩

theorem Reads.and {left right : List Sign} {leftFactors rightFactors : List Factor}
    (readsLeft : Reads left leftFactors) (readsRight : Reads right rightFactors) :
    Reads (left ++ .and :: right) (leftFactors ++ rightFactors) := by
  constructor
  · simp [readsLeft.no_or, readsRight.no_or]
  · rw [List.splitOn_append_cons_self, List.mapM_append, readsLeft.factors_eq,
      readsRight.factors_eq]
    rfl

/-- Factors joined by `&` are an expression with a single alternative. -/
theorem Reads.ofSigns {signs : List Sign} {factors : List Factor} (reads : Reads signs factors) :
    Expression.ofSigns? signs = some [factors] := by
  rw [Expression.ofSigns?, List.splitOn_eq_singleton reads.no_or]
  simp [reads.factors_eq]

/-- What stands behind `|` is read by itself. -/
theorem Reads.or {front rest : List Sign} {factors : List Factor} {later : Expression}
    (reads : Reads front factors) (readsRest : Expression.ofSigns? rest = some later) :
    Expression.ofSigns? (front ++ .or :: rest) = some (factors :: later) := by
  rw [Expression.ofSigns?] at readsRest ⊢
  rw [List.splitOn_append_cons_self_of_not_mem reads.no_or, List.mapM_cons, reads.factors_eq,
    readsRest]
  rfl

end AuditTrail.Query
