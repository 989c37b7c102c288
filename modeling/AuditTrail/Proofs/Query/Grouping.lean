import AuditTrail.Proofs.Query.Expression
import AuditTrail.Proofs.Query.Runs
import AuditTrail.Proofs.Text.Blank

/-!
# The grouping of a text search

What a list of tokens asks for is told without the translator: which tokens are operands, which of
them are negated, and which joiners stand between two operands that leave something to search for.
The expression that the translator writes has this meaning when the store reads it: one of the
runs of operands joined by AND holds as a whole.
-/

namespace AuditTrail.Query

open Text

/-- The part that a token plays. -/
inductive Role where
  | joiner (joiner : Joiner)
  /-- NOT, where it is no operand itself. -/
  | negation
  | operand (negated : Bool) (token : List Char)
deriving DecidableEq, Repr

/-- The parts that some tokens play.  Behind NOT every token is an operand. -/
def roles : Bool → List (List Char) → List Role
  | _, [] => []
  | true, token :: rest => .operand true token :: roles false rest
  | false, token :: rest =>
      match keyword? (trim token) with
      | some .and => .joiner .and :: roles false rest
      | some .or => .joiner .or :: roles false rest
      | some .not => .negation :: roles true rest
      | none => .operand false token :: roles false rest

/-- An operand that leaves something to search for. -/
structure Element where
  /-- The joiners between the element before and this one. -/
  between : List Joiner
  /-- Set when the token stands behind NOT. -/
  negated : Bool
  /-- The searchable form of the token. -/
  escaped : List Char
deriving DecidableEq, Repr

namespace Element

/-- The text that is written for an element. -/
def text (element : Element) : List Char :=
  if element.negated then '!' :: element.escaped else element.escaped

/-- The joiner that counts between an element and the one before: the last one, or else AND. -/
def joiner (element : Element) : Joiner := element.between.getLast?.getD .and

/-- The truth of an element: that of its own text as the store reads it. -/
def value (found : List Char → Bool) (element : Element) : Bool :=
  (Expression.read? element.text).any (·.value found)

end Element

/-- The elements among some roles, when some joiners have been passed since the last element. -/
def elementsAfter : List Joiner → List Role → List Element
  | _, [] => []
  | passed, .joiner joiner :: rest => elementsAfter (passed ++ [joiner]) rest
  | passed, .negation :: rest => elementsAfter passed rest
  | passed, .operand negated token :: rest =>
      let escaped := escapeTerm (unquote token)
      if escaped.isEmpty then elementsAfter passed rest
      else ⟨passed, negated, escaped⟩ :: elementsAfter [] rest

/-- The elements of a list of tokens. -/
def elements (tokens : List (List Char)) : List Element := elementsAfter [] (roles false tokens)

/-- Maximal runs of elements: two consecutive elements are parted exactly where the last joiner
between them is OR. -/
structure AreRuns (elements : List Element) (runs : List (List Element)) : Prop where
  flatten_eq : runs.flatten = elements
  nil_notMem : [] ∉ runs
  joined : ∀ run ∈ runs, run.IsChain fun _ next => next.between.getLast? ≠ some .or
  parted : runs.IsChain fun _ later => ∃ next ∈ later.head?, next.between.getLast? = some .or

theorem Element.joiner_eq_or_iff (element : Element) :
    element.joiner = .or ↔ element.between.getLast? = some .or := by
  rw [Element.joiner]
  cases element.between.getLast? with
  | none => simp
  | some joiner => simp

theorem areRuns_andRuns (elements : List Element) :
    AreRuns elements (andRuns Element.joiner elements) where
  flatten_eq := List.flatten_splitBy _ elements
  nil_notMem := List.nil_notMem_splitBy _ elements
  joined run member := by
    apply (List.isChain_of_mem_splitBy member).imp
    intro _ next same
    rw [ne_eq, ← Element.joiner_eq_or_iff, eq_of_beq same]
    simp
  parted := by
    apply (List.isChain_getLast_head_splitBy _ elements).imp
    rintro _ later ⟨_, later_ne, differs⟩
    refine ⟨later.head later_ne, List.head_mem_head? later_ne, ?_⟩
    rw [← Element.joiner_eq_or_iff]
    cases joining : (later.head later_ne).joiner with
    | and => simp [joining] at differs
    | or => rfl

/-- There are search words, and their characters are searchable. -/
structure Term.IsWritable (term : Term) : Prop where
  words_ne : term.words ≠ []
  word_ne : ∀ word ∈ term.words, word ≠ []
  searchable : ∀ word ∈ term.words, ∀ c ∈ word, isSearchable c = true

theorem mem_searchWords {text word : List Char} (member : word ∈ searchWords text) :
    word ≠ [] ∧ ∀ c ∈ word, isSearchable c = true := by
  have filtered : ∀ c ∈ text.filter (fun c => isSearchable c || isBlank c),
      isSearchable c = true ∨ isBlank c = true := by
    intro c inside
    simpa using (List.mem_filter.mp inside).2
  obtain ⟨ne, chars⟩ := of_mem_words member filtered
  refine ⟨ne, fun c inside => ?_⟩
  obtain ⟨plain, searchable | blank⟩ := chars c inside
  · exact searchable
  · simp [plain] at blank

theorem isWritable_of_searchWords (joiner : Joiner) (negated : Bool) {text : List Char}
    (ne : (searchWords text).isEmpty = false) :
    Term.IsWritable ⟨joiner, negated, searchWords text⟩ where
  words_ne := by simpa using ne
  word_ne word member := (mem_searchWords member).1
  searchable word member := (mem_searchWords member).2

@[simp]
theorem lexemes_isEmpty (words : List (List Char)) : (lexemes words).isEmpty = words.isEmpty := by
  cases words with
  | nil => rfl
  | cons word rest => simp [lexemes, join_cons, lexeme]

theorem unquote_trim (token : List Char) : unquote (trim token) = unquote token := by
  simp [unquote]

theorem escapeTerm_unquote_of_blank {token : List Char} (blank : trim token = []) :
    escapeTerm (unquote token) = [] := by
  simp [unquote, blank]
  rfl

theorem forall_isWritable_termsAfter (pending : Joiner) (tokens : List (List Char)) :
    ∀ term ∈ termsAfter pending tokens, term.IsWritable := by
  fun_induction termsAfter pending tokens with
  | case1 => simp
  | case2 pending raw rest token blank ih => exact ih
  | case3 pending raw rest token filled keyword ih => exact ih
  | case4 pending raw rest token filled keyword ih => exact ih
  | case5 => simp
  | case6 pending raw token filled keyword operand rest words none_left ih => exact ih
  | case7 pending raw token filled keyword operand rest words some_left ih =>
      simp only [List.mem_cons, forall_eq_or_imp]
      exact ⟨isWritable_of_searchWords pending true (by simpa using some_left), ih⟩
  | case8 pending raw rest token filled keyword words none_left ih => exact ih
  | case9 pending raw rest token filled keyword words some_left ih =>
      simp only [List.mem_cons, forall_eq_or_imp]
      exact ⟨isWritable_of_searchWords pending false (by simpa using some_left), ih⟩

/-- The translator's terms are the elements, with their joiners and texts. -/
theorem map_termsAfter (pending : Joiner) (tokens : List (List Char)) (passed : List Joiner)
    (last : passed.getLast?.getD .and = pending) :
    (termsAfter pending tokens).map (fun term => (term.joiner, term.text)) =
      (elementsAfter passed (roles false tokens)).map fun element =>
        (element.joiner, element.text) := by
  fun_induction termsAfter pending tokens generalizing passed with
  | case1 => rfl
  | case2 pending raw rest token blank ih =>
      have nothing : trim raw = [] := by simpa using blank
      have unkeyed : keyword? [] = none := rfl
      simp only [roles, nothing, unkeyed, elementsAfter, escapeTerm_unquote_of_blank nothing]
      exact ih passed last
  | case3 pending raw rest token filled keyword ih =>
      simp only [roles, show keyword? (trim raw) = some .and from keyword, elementsAfter]
      exact ih (passed ++ [.and]) (by simp)
  | case4 pending raw rest token filled keyword ih =>
      simp only [roles, show keyword? (trim raw) = some .or from keyword, elementsAfter]
      exact ih (passed ++ [.or]) (by simp)
  | case5 pending raw token filled keyword =>
      simp [roles, show keyword? (trim raw) = some .not from keyword, elementsAfter]
  | case6 pending raw token filled keyword operand rest words none_left ih =>
      have nothing : (escapeTerm (unquote operand)).isEmpty = true := by
        simpa [escapeTerm] using none_left
      simp only [roles, show keyword? (trim raw) = some .not from keyword, elementsAfter, nothing]
      exact ih passed last
  | case7 pending raw token filled keyword operand rest words some_left ih =>
      have left : (escapeTerm (unquote operand)).isEmpty = false := by
        simpa [escapeTerm] using some_left
      simp only [roles, show keyword? (trim raw) = some .not from keyword, elementsAfter, left,
        List.map_cons]
      rw [ih [] rfl, ← last]
      rfl
  | case8 pending raw rest token filled keyword words none_left ih =>
      have nothing : (escapeTerm (unquote raw)).isEmpty = true := by
        rw [← unquote_trim]
        simpa [escapeTerm] using none_left
      simp only [roles, show keyword? (trim raw) = none from keyword, elementsAfter, nothing]
      exact ih passed last
  | case9 pending raw rest token filled keyword words some_left ih =>
      have left : (escapeTerm (unquote raw)).isEmpty = false := by
        rw [← unquote_trim]
        simpa [escapeTerm] using some_left
      simp only [roles, show keyword? (trim raw) = none from keyword, elementsAfter, left,
        List.map_cons]
      rw [ih [] rfl, ← last, ← unquote_trim raw]
      rfl

/-! ## Reading a term back -/

/-- The factors of a term.  NOT takes hold of the first word alone. -/
def Term.factors (term : Term) : List Factor :=
  match term.words with
  | [] => []
  | word :: rest =>
      (if term.negated then .not (.lexeme word) else .lexeme word) :: rest.map .lexeme

theorem lexemes_cons (word : List Char) (rest : List (List Char)) :
    lexemes (word :: rest) = lexeme word ++ rest.flatMap fun next => '&' :: lexeme next := by
  rw [lexemes, List.map_cons, join_cons, List.flatMap_map]
  rfl

/-- Words joined by `&` go on with the factors that stand before them. -/
theorem exists_reads_words {front : List Char} {signs : List Sign} {factors : List Factor}
    (spells : Spells front signs) (reads : Reads signs factors) (words : List (List Char))
    (ne : ∀ word ∈ words, word ≠ [])
    (searchable : ∀ word ∈ words, ∀ c ∈ word, isSearchable c = true) :
    ∃ all, Spells (front ++ words.flatMap fun word => '&' :: lexeme word) all ∧
      Reads all (factors ++ words.map .lexeme) := by
  induction words generalizing front signs factors with
  | nil => exact ⟨signs, by simpa using spells, by simpa using reads⟩
  | cons word words ih =>
      have spellsWord := spells_lexeme (ne word (by simp)) (searchable word (by simp))
      have joined := (spells.append (spells_sign (c := '&') rfl)).append spellsWord
      obtain ⟨all, spellsAll, readsAll⟩ := ih joined
        (by simpa using reads.and (reads_lexeme word))
        (fun other member => ne other (by simp [member]))
        (fun other member => searchable other (by simp [member]))
      refine ⟨all, ?_, by simpa using readsAll⟩
      simpa using spellsAll

/-- A term is read back as its factors. -/
theorem Term.IsWritable.exists_reads {term : Term} (writable : term.IsWritable) :
    ∃ signs, Spells term.text signs ∧ Reads signs term.factors := by
  obtain ⟨joiner, negated, words⟩ := term
  obtain ⟨words_ne, word_ne, searchable⟩ := writable
  cases words with
  | nil => exact absurd rfl words_ne
  | cons word rest =>
      have spellsWord := spells_lexeme (word_ne word (by simp)) (searchable word (by simp))
      have rest_ne : ∀ other ∈ rest, other ≠ [] :=
        fun other member => word_ne other (by simp [member])
      have rest_searchable : ∀ other ∈ rest, ∀ c ∈ other, isSearchable c = true :=
        fun other member => searchable other (by simp [member])
      cases negated with
      | false =>
          have result :=
            exists_reads_words spellsWord (reads_lexeme word) rest rest_ne rest_searchable
          simpa [Term.text, Term.factors, lexemes_cons] using result
      | true =>
          have spellsNot := (spells_sign (c := '!') rfl).append spellsWord
          have result := exists_reads_words spellsNot (reads_not_lexeme word) rest rest_ne
            rest_searchable
          simpa [Term.text, Term.factors, lexemes_cons] using result

theorem spells_following {joiner : Joiner} {sign : Sign} {text : List Char} {signs : List Sign}
    (known : Sign.ofChar? joiner.sign = some sign) (spells : Spells text signs) :
    Spells (' ' :: joiner.sign :: ' ' :: text) (sign :: signs) := by
  have parts := ((spells_blank.append (spells_sign known)).append spells_blank).append spells
  simpa using parts

/-- Behind a run that is still open, terms are read as the joiners say. -/
theorem exists_expression_following (terms : List Term)
    (writable : ∀ term ∈ terms, term.IsWritable) {front : List Sign} {factors : List Factor}
    (reads : Reads front factors) :
    ∃ signs expression, Spells (followingText terms) signs ∧
      Expression.ofSigns? (front ++ signs) = some expression ∧
      ∀ found, expression.value found =
        openRun Term.joiner (fun term => term.factors.all (·.value found))
          (factors.all (·.value found)) terms := by
  induction terms generalizing front factors with
  | nil =>
      refine ⟨[], [factors], spells_nil, by simpa using reads.ofSigns, fun found => ?_⟩
      simp [Expression.value, openRun]
  | cons term terms ih =>
      obtain ⟨own, spellsOwn, readsOwn⟩ := (writable term (by simp)).exists_reads
      have later : ∀ other ∈ terms, other.IsWritable := fun other member =>
        writable other (by simp [member])
      cases joining : term.joiner with
      | and =>
          obtain ⟨signs, expression, spells, parsed, value⟩ := ih later (reads.and readsOwn)
          have known : Sign.ofChar? term.joiner.sign = some .and := by rw [joining]; rfl
          refine ⟨.and :: own ++ signs, expression, ?_, by simpa using parsed, fun found => ?_⟩
          · simpa [followingText] using (spells_following known spellsOwn).append spells
          · simpa [openRun, joining] using value found
      | or =>
          obtain ⟨signs, expression, spells, parsed, value⟩ := ih later readsOwn
          have known : Sign.ofChar? term.joiner.sign = some .or := by rw [joining]; rfl
          refine ⟨.or :: own ++ signs, factors :: expression, ?_, ?_, fun found => ?_⟩
          · simpa [followingText] using (spells_following known spellsOwn).append spells
          · simpa using reads.or parsed
          · have rest := value found
            rw [Expression.value] at rest ⊢
            simp only [openRun, joining, List.any_cons, rest]

/-- The truth of a term by itself. -/
def Term.value (found : List Char → Bool) (term : Term) : Bool :=
  (Expression.read? term.text).any (·.value found)

theorem Term.IsWritable.read_text {term : Term} (writable : term.IsWritable) :
    Expression.read? term.text = some [term.factors] := by
  obtain ⟨signs, spells, reads⟩ := writable.exists_reads
  rw [Expression.read?, spells.signs, Option.bind_some, reads.ofSigns]

theorem Term.IsWritable.value_eq {term : Term} (writable : term.IsWritable)
    (found : List Char → Bool) : term.value found = term.factors.all (·.value found) := by
  simp [Term.value, writable.read_text, Expression.value]

/-- The written expression of some terms is read back with the meaning of their runs. -/
theorem exists_expression (first : Term) (rest : List Term)
    (writable : ∀ term ∈ first :: rest, term.IsWritable) :
    ∃ expression, Expression.read? (expressionText (first :: rest)) = some expression ∧
      ∀ found, expression.value found =
        anyRun Term.joiner (Term.value found) (first :: rest) := by
  obtain ⟨own, spellsOwn, readsOwn⟩ := (writable first (by simp)).exists_reads
  have later : ∀ term ∈ rest, term.IsWritable := fun term member => writable term (by simp [member])
  obtain ⟨signs, expression, spells, parsed, value⟩ :=
    exists_expression_following rest later readsOwn
  refine ⟨expression, ?_, fun found => ?_⟩
  · rw [Expression.read?, expressionText, (spellsOwn.append spells).signs, Option.bind_some, parsed]
  · rw [value found, anyRun_cons, (writable first (by simp)).value_eq]
    exact openRun_congr Term.joiner _ fun term member => ((later term member).value_eq found).symm

/-- The expression of a list of tokens is empty, or the store reads it completely, and then one of
the runs of its elements holds as a whole. -/
theorem fullText_grouping (tokens : List (List Char)) :
    (elements tokens = [] ∧ fullText tokens = []) ∨
      (elements tokens ≠ [] ∧
        (∀ element ∈ elements tokens, (Expression.read? element.text).isSome) ∧
        ∃ expression runs, Expression.read? (fullText tokens) = some expression ∧
          AreRuns (elements tokens) runs ∧
          ∀ found, expression.value found = runs.any (·.all (Element.value found))) := by
  have forms := map_termsAfter .and tokens [] rfl
  have writable := forall_isWritable_termsAfter .and tokens
  change (terms tokens).map _ = (elements tokens).map _ at forms
  cases translated : terms tokens with
  | nil =>
      rw [translated] at forms
      have none_left : elements tokens = [] := by simpa using forms.symm
      exact Or.inl ⟨none_left, by rw [fullText, translated, expressionText]⟩
  | cons first rest =>
      change ∀ term ∈ terms tokens, term.IsWritable at writable
      rw [translated] at forms writable
      obtain ⟨expression, parsed, value⟩ := exists_expression first rest writable
      refine Or.inr ⟨?_, ?_, expression, andRuns Element.joiner (elements tokens), ?_,
        areRuns_andRuns (elements tokens), fun found => ?_⟩
      · intro none_left
        simp [none_left] at forms
      · intro element member
        have written : (element.joiner, element.text) ∈
            (first :: rest).map fun term => (term.joiner, term.text) := by
          rw [forms]
          exact List.mem_map_of_mem member
        obtain ⟨term, among, same⟩ := List.mem_map.mp written
        have texts : term.text = element.text := congrArg Prod.snd same
        rw [← texts, (writable term among).read_text]
        rfl
      · rw [fullText, translated, parsed]
      · -- Both sides depend on the joiners and the texts only.
        let truth : Joiner × List Char → Bool := fun form =>
          (Expression.read? form.2).any (·.value found)
        calc
          expression.value found = anyRun Term.joiner (Term.value found) (first :: rest) :=
            value found
          _ = anyRun Prod.fst truth ((first :: rest).map fun term => (term.joiner, term.text)) :=
            (anyRun_map Prod.fst truth (fun term : Term => (term.joiner, term.text)) _).symm
          _ = anyRun Prod.fst truth
                ((elements tokens).map fun element => (element.joiner, element.text)) := by
            rw [forms]
          _ = anyRun Element.joiner (Element.value found) (elements tokens) :=
            anyRun_map Prod.fst truth (fun element : Element => (element.joiner, element.text)) _

end AuditTrail.Query
