import AuditTrail.Proofs.Query.Grouping

/-!
# Negation in a text search

NOT in operator position takes the token behind it as its operand.  The sign `!` that is written
for it stands before the first word of the operand and binds more tightly than the `&` between
the words, so a phrase of several words is not negated as a whole.
-/

namespace AuditTrail.Query

open Text

/-- Whether NOT waits for its operand behind some tokens. -/
def waits : Bool → List (List Char) → Bool
  | waiting, [] => waiting
  | true, _ :: rest => waits false rest
  | false, token :: rest => waits (decide (keyword? (trim token) = some .not)) rest

section Step

variable {pending : Joiner} {raw operand : List Char} {rest : List (List Char)}

theorem trim_isEmpty_of_keyword {keyword : Keyword} (known : keyword? (trim raw) = some keyword) :
    (trim raw).isEmpty = false := by
  cases blank : trim raw with
  | nil =>
      rw [blank] at known
      cases known
  | cons => rfl

theorem termsAfter_joiner {joiner : Joiner} (known : Joiner.ofWord? (trim raw) = some joiner) :
    termsAfter pending (raw :: rest) = termsAfter joiner rest := by
  rw [Joiner.ofWord?] at known
  rw [termsAfter.eq_def]
  split at known
  · next found =>
      obtain rfl := Option.some.inj known
      simp [trim_isEmpty_of_keyword found, found]
  · next found =>
      obtain rfl := Option.some.inj known
      simp [trim_isEmpty_of_keyword found, found]
  · cases known

theorem termsAfter_negation (known : keyword? (trim raw) = some .not) :
    termsAfter pending (raw :: operand :: rest) =
      if (searchWords (unquote operand)).isEmpty then termsAfter pending rest
      else ⟨pending, true, searchWords (unquote operand)⟩ :: termsAfter .and rest := by
  rw [termsAfter.eq_def]
  simp [trim_isEmpty_of_keyword known, known]

/-- A token that is no keyword is an operand, also when it is blank. -/
theorem termsAfter_operand (unkeyed : keyword? (trim raw) = none) :
    termsAfter pending (raw :: rest) =
      if (searchWords (unquote raw)).isEmpty then termsAfter pending rest
      else ⟨pending, false, searchWords (unquote raw)⟩ :: termsAfter .and rest := by
  rw [termsAfter.eq_def]
  simp only [unkeyed, unquote_trim]
  split
  · next blank =>
    have nothing := escapeTerm_unquote_of_blank (List.isEmpty_iff.mp blank)
    rw [escapeTerm, ← List.isEmpty_iff, lexemes_isEmpty] at nothing
    rw [if_pos nothing]
  · rfl

end Step

/-- Some tokens write the same terms whatever comes behind them. -/
def IsSettled (tokens : List (List Char)) : Prop :=
  ∀ pending, ∃ made joiner, ∀ rest,
    termsAfter pending (tokens ++ rest) = made ++ termsAfter joiner rest

theorem IsSettled.append {front back : List (List Char)} (settledFront : IsSettled front)
    (settledBack : IsSettled back) : IsSettled (front ++ back) := by
  intro pending
  obtain ⟨made, joiner, parted⟩ := settledFront pending
  obtain ⟨later, last, following⟩ := settledBack joiner
  refine ⟨made ++ later, last, fun rest => ?_⟩
  rw [List.append_assoc, parted, following, List.append_assoc]

theorem IsSettled.termsAfter_append {front : List (List Char)} (settled : IsSettled front)
    (pending : Joiner) :
    ∃ joiner, ∀ rest,
      termsAfter pending (front ++ rest) = termsAfter pending front ++ termsAfter joiner rest := by
  obtain ⟨made, joiner, parted⟩ := settled pending
  have alone : termsAfter pending front = made := by simpa [termsAfter] using parted []
  exact ⟨joiner, fun rest => by rw [parted, alone]⟩

theorem isSettled_negation {raw : List Char} (operand : List Char)
    (known : keyword? (trim raw) = some .not) : IsSettled [raw, operand] := by
  intro pending
  cases left : (searchWords (unquote operand)).isEmpty with
  | true => exact ⟨[], pending, fun rest => by simp [termsAfter_negation known, left]⟩
  | false =>
      refine ⟨[⟨pending, true, searchWords (unquote operand)⟩], .and, fun rest => ?_⟩
      simp [termsAfter_negation known, left]

theorem isSettled_singleton {raw : List Char} (other : keyword? (trim raw) ≠ some .not) :
    IsSettled [raw] := by
  intro pending
  cases known : keyword? (trim raw) with
  | none =>
      cases left : (searchWords (unquote raw)).isEmpty with
      | true => exact ⟨[], pending, fun rest => by simp [termsAfter_operand known, left]⟩
      | false =>
          refine ⟨[⟨pending, false, searchWords (unquote raw)⟩], .and, fun rest => ?_⟩
          simp [termsAfter_operand known, left]
  | some keyword =>
      cases keyword with
      | and => exact ⟨[], .and, fun rest => termsAfter_joiner (by rw [Joiner.ofWord?, known])⟩
      | or => exact ⟨[], .or, fun rest => termsAfter_joiner (by rw [Joiner.ofWord?, known])⟩
      | not => exact absurd known other

theorem isSettled_of_waits (tokens : List (List Char)) (idle : waits false tokens = false) :
    IsSettled tokens := by
  match tokens with
  | [] => exact fun pending => ⟨[], pending, fun rest => rfl⟩
  | raw :: rest =>
      by_cases known : keyword? (trim raw) = some .not
      · match rest with
        | [] => simp [waits, known] at idle
        | operand :: rest =>
            have later : waits false rest = false := by simpa [waits, known] using idle
            exact (isSettled_negation operand known).append (isSettled_of_waits rest later)
      · have later : waits false rest = false := by simpa [waits, known] using idle
        exact (isSettled_singleton known).append (isSettled_of_waits rest later)

/-- A negated term with at least one word holds where its first word does not and all others do;
it is the negation of the whole operand where there is no other word, and nowhere else. -/
theorem Term.IsWritable.negated_meaning {joiner : Joiner} {first : List Char}
    {others : List (List Char)} (writable : Term.IsWritable ⟨joiner, true, first :: others⟩) :
    ∃ expression, Expression.read? ('!' :: lexemes (first :: others)) = some expression ∧
      (∀ found, expression.value found = (!found first && others.all found)) ∧
      ((∀ found, expression.value found = !(first :: others).all found) ↔ others = []) := by
  have meaning (found : List Char → Bool) :
      Expression.value found [Term.factors ⟨joiner, true, first :: others⟩] =
        (!found first && others.all found) := by
    simp [Expression.value, Term.factors, Factor.value, Function.comp_def]
  refine ⟨_, writable.read_text, meaning, ?_⟩
  constructor
  · intro negates
    have nowhere := negates fun _ => false
    rw [meaning] at nowhere
    cases others with
    | nil => rfl
    | cons next later => simp at nowhere
  · rintro rfl found
    simp [meaning]

/-- For NOT in operator position and an operand with at least one word, one term is written
between those of the tokens before and those of the tokens behind.  It denies the first word of
the operand and asks for all others, so it is the negation of operands of a single word only. -/
theorem negation_of_first_word (front back : List (List Char)) (raw operand : List Char)
    (first : List Char) (others : List (List Char)) (idle : waits false front = false)
    (negation : keyword? (trim raw) = some .not)
    (left : searchWords (unquote operand) = first :: others) :
    ∃ joiner expression,
      terms (front ++ raw :: operand :: back) =
        terms front ++ ⟨joiner, true, first :: others⟩ :: termsAfter .and back ∧
      Expression.read? (Term.text ⟨joiner, true, first :: others⟩) = some expression ∧
      (∀ found, expression.value found = (!found first && others.all found)) ∧
      ((∀ found, expression.value found = !(first :: others).all found) ↔ others = []) := by
  obtain ⟨joiner, parted⟩ := (isSettled_of_waits front idle).termsAfter_append .and
  have writable : Term.IsWritable ⟨joiner, true, first :: others⟩ := by
    rw [← left]
    exact isWritable_of_searchWords joiner true (by rw [left]; rfl)
  obtain ⟨expression, parsed, value, negates⟩ := writable.negated_meaning
  refine ⟨joiner, expression, ?_, parsed, value, negates⟩
  rw [terms, parted, termsAfter_negation negation, left]
  rfl

/-- The phrase `"user login"`, with its quotation marks. -/
def quotedPhrase : List Char := "\"user login\"".toList

theorem searchWords_quotedPhrase :
    searchWords (unquote quotedPhrase) = ["user".toList, "login".toList] := by
  decide +kernel

theorem negation_of_first_word_quotedPhrase :
    waits false [['a'], ['o', 'r']] = false ∧ keyword? (trim ['n', 'o', 't']) = some .not ∧
    searchWords (unquote quotedPhrase) = ["user".toList, "login".toList] ∧
    ∃ joiner expression,
      terms ([['a'], ['o', 'r']] ++ ['n', 'o', 't'] :: quotedPhrase :: [['b']]) =
        terms [['a'], ['o', 'r']] ++
          ⟨joiner, true, ["user".toList, "login".toList]⟩ :: termsAfter .and [['b']] ∧
      Expression.read? (Term.text ⟨joiner, true, ["user".toList, "login".toList]⟩) =
        some expression ∧
      (∀ found, expression.value found =
        (!found "user".toList && List.all ["login".toList] found)) ∧
      ((∀ found, expression.value found = !List.all ["user".toList, "login".toList] found) ↔
        ["login".toList] = []) := by
  have idle : waits false [['a'], ['o', 'r']] = false := by decide +kernel
  have negation : keyword? (trim ['n', 'o', 't']) = some .not := by decide +kernel
  exact ⟨idle, negation, searchWords_quotedPhrase,
    negation_of_first_word _ _ _ _ _ _ idle negation searchWords_quotedPhrase⟩

/-- A record with neither word of a phrase is left out by the negated phrase. -/
theorem fullText_not_quotedPhrase :
    fullText [['N', 'O', 'T'], quotedPhrase] = "!user:*&login:*".toList ∧
    ∃ expression, Expression.read? (fullText [['N', 'O', 'T'], quotedPhrase]) = some expression ∧
      expression.value (fun _ => false) ≠
        !(searchWords (unquote quotedPhrase)).all fun _ => false := by
  have written : fullText [['N', 'O', 'T'], quotedPhrase] = "!user:*&login:*".toList := by
    decide +kernel
  refine ⟨written,
    [[.not (.lexeme "user".toList), .lexeme "login".toList]], ?_, by decide +kernel⟩
  rw [written]
  decide +kernel

end AuditTrail.Query
