import AuditTrail.Proofs.Sql.Parameter
import AuditTrail.Proofs.Sql.Reading

/-!
# What a filter means

The text of a filter is read as its conditions grouped into runs, whatever the columns of the
conditions and whatever bounds on the time are joined to it.  Terms and bounds come in through the
bindings alone.
-/

namespace AuditTrail.Sql

open Text Query

namespace Database

variable {ρ : Type} (database : Database ρ)

/-- Whether a cell's text compares with an operand; a missing cell does not. -/
def fits (row : ρ) (column : Column) (comparator : Comparator) (operand : List Char) : Bool :=
  (database.text row column).any fun text => database.compares comparator text operand

/-- Whether a row meets a condition.  A number is equal or contained as text, and a term without a
column is contained in any free-text column. -/
def meets (row : ρ) (condition : Condition) : Bool :=
  let pattern := containsPattern condition.term
  match condition.column with
  | none => Column.freeText.any fun column => database.fits row column .ilike pattern
  | some name =>
    match Column.ofName? name with
    | some .id => database.fits row .id .equal condition.term || database.fits row .id .like pattern
    | some column => database.fits row column .ilike pattern
    | none => false

/-- Whether the time of a row lies within the bounds that are given. -/
def within (row : ρ) (range : DateRange) : Bool :=
  range.first.all (fun first => (database.instant row .timestamp).any fun instant =>
      database.instantOf first ≤ instant) &&
    range.last.all fun last => (database.instant row .timestamp).any fun instant =>
      instant ≤ database.instantOf last

/-- Whether a statement selects a row, for a statement that can be read. -/
def admits (row : ρ) (statement : Statement) : Option Bool :=
  (Reading.ofText? statement.text).map fun reading =>
    reading.condition.all (database.holds row statement.bindings)

end Database

/-- Whether some bindings are in force among all bindings. -/
def Bound (all bindings : Bindings) : Prop :=
  ∀ entry ∈ bindings, all.lookup entry.1 = some entry.2

theorem Bound.of_append {all front back : Bindings} (bound : Bound all (front ++ back)) :
    Bound all front ∧ Bound all back :=
  ⟨fun entry member => bound entry (List.mem_append_left back member),
    fun entry member => bound entry (List.mem_append_right front member)⟩

theorem Bound.of_nodup {bindings : Bindings} (distinct : (names bindings).Nodup) :
    Bound bindings bindings :=
  fun _ member => lookup_of_mem distinct member

/-- The formula of a comparison. -/
def Comparison.formula (c : Comparison) : Formula :=
  .atom (.text c.column.name.toList c.comparator c.parameter)

/-- Whether the name of a comparison's parameter is one token. -/
def Comparison.Named (c : Comparison) : Prop :=
  tokens (':' :: c.parameter) = [.parameter c.parameter]

/-- The token of a comparator. -/
def Comparator.token : Comparator → Token
  | equal => .equals
  | like => .likeWord
  | ilike => .ilikeWord

theorem tokens_comparison (c : Comparison) (named : c.Named) :
    tokens c.text = [.word c.column.name.toList, .conversion "text".toList, c.comparator.token,
      .parameter c.parameter] := by
  obtain ⟨column, comparator, parameter⟩ := c
  have converted : tokens (column.name.toList ++ "::text".toList) =
      [.word column.name.toList, .conversion "text".toList] := by
    cases column <;> rfl
  have compared : tokens comparator.text = [comparator.token] := by
    cases comparator <;> rfl
  have front : tokens (column.name.toList ++ "::text ".toList ++ comparator.text) =
      [.word column.name.toList, .conversion "text".toList, comparator.token] := by
    have blank : column.name.toList ++ "::text ".toList ++ comparator.text =
        (column.name.toList ++ "::text".toList) ++ ' ' :: comparator.text := by simp
    rw [blank, tokens_append_space, converted, compared]
    rfl
  have whole : tokens (':' :: parameter) = [.parameter parameter] := named
  rw [Comparison.text, tokens_append_space, front, whole]
  rfl

theorem isFactor_comparison (c : Comparison) (named : c.Named) :
    IsFactor (tokens c.text) c.formula := by
  rw [tokens_comparison c named]
  obtain ⟨column, comparator, parameter⟩ := c
  apply IsFactor.atom
  · cases comparator <;> exact fun _ => rfl
  · cases comparator <;> simp [Comparator.token, Token.endsCondition]

/-- The name of a column stands for that column. -/
theorem ofExactName?_name (column : Column) :
    Column.ofExactName? column.name.toList = some column := by
  cases column <;> rfl

theorem textOf?_of_bound {all : Bindings} {name value : List Char}
    (bound : all.lookup (String.ofList name) = some (.text (String.ofList value))) :
    Database.textOf? all name = some (String.ofList value) := by
  rw [Database.textOf?, bound]

/-- A comparison holds when the cell compares with the value of its parameter. -/
theorem Database.holds_comparison {ρ : Type} (database : Database ρ) (row : ρ) {all : Bindings}
    (c : Comparison) {value : List Char} (bound : Bound all [bindText c.parameter value]) :
    database.holds row all c.formula = database.fits row c.column c.comparator value := by
  have found := textOf?_of_bound (bound _ (List.mem_singleton_self _))
  simp only [holds, Comparison.formula, truth, atomTruth, ofExactName?_name, found,
    Option.bind_eq_bind, Option.bind_some, String.toList_ofList, textTruth, fits]
  cases database.text row c.column <;> simp

/-- The formula of alternatives. -/
def anyFormula (first : Comparison) (rest : List Comparison) : Formula :=
  .joined first.formula (rest.map fun next => (.or, next.formula))

theorem isFactor_anyOf (first : Comparison) (rest : List Comparison)
    (named : ∀ c ∈ first :: rest, c.Named) :
    IsFactor (tokens (Operand.anyOf (first :: rest)).text) (anyFormula first rest) := by
  have factors : AreFactors (rest.map fun next => (.or, tokens next.text))
      (rest.map fun next => (.or, next.formula)) := by
    rw [AreFactors, List.forall₂_map_left_iff, List.forall₂_map_right_iff, List.forall₂_same]
    exact fun next member => ⟨rfl, isFactor_comparison next (named next (by simp [member]))⟩
  have separated : " OR ".toList = ' ' :: "OR".toList ++ [' '] := rfl
  have text : tokens (Operand.anyOf (first :: rest)).text =
      .opening :: (tokens first.text ++
        joinedTokens (rest.map fun next => (.or, tokens next.text))) ++ [.closing] := by
    rw [Operand.text, List.map_cons, join_cons, List.cons_append, tokens_opening,
      tokens_append_closing, tokens_nil]
    simp only [List.flatMap_map, separated, List.cons_append, tokens_append_flatMap,
      joinedTokens, List.append_assoc, List.nil_append, tokens_append_space]
    rfl
  rw [text]
  exact (isFactor_comparison first (named first (by simp))).parenthesized factors

/-- Alternatives hold when one of them holds. -/
theorem Database.holds_anyFormula {ρ : Type} (database : Database ρ) (row : ρ) (all : Bindings)
    (first : Comparison) (rest : List Comparison) :
    database.holds row all (anyFormula first rest) =
      (first :: rest).any fun c => database.holds row all c.formula := by
  have mapped : (rest.map fun next => (Joiner.or, next.formula)) =
      (rest.map Comparison.formula).map fun next => (.or, next) := by simp
  rw [anyFormula, holds_joined, mapped, openRun_or, List.any_map, List.any_cons]
  rfl

/-- An operand is one factor, and it means its condition. -/
theorem operand_meaning {index : Nat} {condition : Condition} {made : Operand} {own : Bindings}
    (built : operand index condition = .ok (made, own)) :
    ∃ formula, IsFactor (tokens made.text) formula ∧
      ∀ {ρ : Type} (database : Database ρ) (row : ρ) (all : Bindings), Bound all own →
        database.holds row all formula = database.meets row condition := by
  have parameter : ∀ column comparator,
      (Comparison.mk column comparator (parameterName index)).Named :=
    fun _ _ => tokens_parameterName index
  rcases operand_cases built with ⟨free, rfl, rfl⟩ | ⟨name, given, found, rfl, rfl⟩ |
    ⟨name, column, given, found, other, rfl, rfl⟩
  · -- A term without a column.
    refine ⟨_, isFactor_anyOf ⟨.userId, .ilike, parameterName index⟩
      (Column.freeText.tail.map fun column => ⟨column, .ilike, parameterName index⟩) ?_, ?_⟩
    · intro c member
      rw [List.mem_cons, List.mem_map] at member
      rcases member with rfl | ⟨column, _, rfl⟩ <;> exact parameter _ _
    · intro ρ database row all bound
      rw [Database.holds_anyFormula, Database.meets, free]
      change (Column.freeText.map fun column =>
        (⟨column, .ilike, parameterName index⟩ : Comparison)).any _ = _
      rw [List.any_map]
      exact congrArg _ (funext fun column => database.holds_comparison row _ bound)
  · -- A number.
    refine ⟨_, isFactor_anyOf ⟨.id, .equal, parameterName index⟩
      [⟨.id, .like, patternName index⟩] ?_, ?_⟩
    · intro c member
      rw [List.mem_cons, List.mem_singleton] at member
      rcases member with rfl | rfl
      · exact parameter _ _
      · exact tokens_patternName index
    · intro ρ database row all bound
      have both : Bound all ([bindText (parameterName index) condition.term] ++
        [bindText (patternName index) (containsPattern condition.term)]) := bound
      have equal :=
        database.holds_comparison row ⟨.id, .equal, parameterName index⟩ both.of_append.1
      have contained :=
        database.holds_comparison row ⟨.id, .like, patternName index⟩ both.of_append.2
      rw [Database.holds_anyFormula, Database.meets, given]
      simp only [found, List.any_cons, List.any_nil, Bool.or_false, equal, contained]
  · -- Any other column.
    refine ⟨_, isFactor_comparison ⟨column, .ilike, parameterName index⟩ (parameter _ _), ?_⟩
    intro ρ database row all bound
    rw [database.holds_comparison row _ bound, Database.meets, given]
    cases column <;> first | exact absurd rfl other | simp only [found]

/-- Formulas that are joined like some conditions and mean them. -/
abbrev Mean {ρ : Type} (database : Database ρ) (row : ρ) (all : Bindings)
    (formulas : List (Joiner × Formula)) (conditions : List Condition) : Prop :=
  List.Forall₂ (fun formula condition => formula.1 = condition.joiner ∧
    database.holds row all formula.2 = database.meets row condition) formulas conditions

/-- The operands behind the first are factors, and each means its condition. -/
theorem following_meaning {index : Nat} {conditions : List Condition}
    {operands : List (Joiner × Operand)} {own : Bindings}
    (built : following index conditions = .ok (operands, own)) :
    ∃ formulas, AreFactors (operands.map fun next => (next.1, tokens next.2.text)) formulas ∧
      ∀ {ρ : Type} (database : Database ρ) (row : ρ) (all : Bindings), Bound all own →
        Mean database row all formulas conditions := by
  induction conditions generalizing index operands own with
  | nil =>
      obtain ⟨rfl, rfl⟩ := Prod.mk.inj (Except.ok.inj built)
      exact ⟨[], .nil, fun _ _ _ _ => .nil⟩
  | cons condition rest ih =>
      obtain ⟨made, first, joiner, later, more, leading, joined, last, rfl, rfl⟩ :=
        following_cons built
      obtain ⟨formula, factor, meaning⟩ := operand_meaning leading
      obtain ⟨formulas, factors, meanings⟩ := ih last
      refine ⟨(joiner, formula) :: formulas, .cons ⟨rfl, factor⟩ factors, ?_⟩
      intro ρ database row all bound
      obtain ⟨firstBound, moreBound⟩ := bound.of_append
      exact .cons ⟨(joiner_of_joinerOf joined).symm, meaning database row all firstBound⟩
        (meanings database row all moreBound)

/-- Runs keep their truth when their operands keep joiners and truth. -/
theorem Mean.openRun_eq {ρ : Type} {database : Database ρ} {row : ρ} {all : Bindings}
    {formulas : List (Joiner × Formula)} {conditions : List Condition}
    (mean : Mean database row all formulas conditions) (known : Bool) :
    openRun Prod.fst (fun next => database.holds row all next.2) known formulas =
      openRun Condition.joiner (database.meets row) known conditions := by
  induction mean generalizing known with
  | nil => rfl
  | cons first _ ih =>
      obtain ⟨joined, same⟩ := first
      simp only [openRun, joined, same]
      split
      · exact ih _
      · rw [ih]

theorem tokens_word (joiner : Joiner) : tokens joiner.word = [joinerToken joiner] := by
  cases joiner <;> rfl

theorem tokens_filter (filter : Filter) :
    tokens filter.text = .opening :: (tokens filter.first.text ++
      joinedTokens (filter.rest.map fun next => (next.1, tokens next.2.text))) ++ [.closing] := by
  simp only [Filter.text, List.cons_append, tokens_opening, tokens_append_closing, tokens_nil]
  have rest := tokens_append_flatMap filter.first.text
    (fun next : Joiner × Operand => next.1.word ++ ' ' :: next.2.text) filter.rest
  simp only [tokens_append_space, tokens_word] at rest
  simp only [joinedTokens, List.flatMap_map]
  rw [rest]
  simp

/-- A filter is one factor, and it means its conditions, grouped into runs. -/
theorem filterOf_meaning {condition : Condition} {rest : List Condition} {filter : Filter}
    {own : Bindings} (built : filterOf (condition :: rest) = .ok (some filter, own)) :
    ∃ formula, IsFactor (tokens filter.text) formula ∧
      ∀ {ρ : Type} (database : Database ρ) (row : ρ) (all : Bindings), Bound all own →
        database.holds row all formula =
          anyRun Condition.joiner (database.meets row) (condition :: rest) := by
  obtain ⟨made, first, later, more, leading, last, same, rfl⟩ := filterOf_cons built
  obtain rfl := Option.some.inj same
  obtain ⟨formula, factor, meaning⟩ := operand_meaning leading
  obtain ⟨formulas, factors, meanings⟩ := following_meaning last
  refine ⟨.joined formula formulas, ?_, ?_⟩
  · rw [tokens_filter]
    exact factor.parenthesized factors
  · intro ρ database row all bound
    obtain ⟨firstBound, moreBound⟩ := bound.of_append
    rw [Database.holds_joined, anyRun_cons, meaning database row all firstBound,
      (meanings database row all moreBound).openRun_eq]

/-- A bound moment is found. -/
theorem momentOf?_of_bound {all : Bindings} {name : String} {moment : Moment}
    (bound : Bound all [(name, .moment moment)]) :
    Database.momentOf? all name.toList = some moment := by
  rw [Database.momentOf?, String.ofList_toList, bound _ (List.mem_singleton_self _)]

theorem kleeneAnd_eq_true (left right : Option Bool) :
    (kleeneAnd left right == some true) = (left == some true && right == some true) := by
  rcases left with _ | _ | _ <;> rcases right with _ | _ | _ <;> rfl

theorem Database.instantTruth_eq_true {ρ : Type} (database : Database ρ) (row : ρ)
    (column : Column) (moment : Moment) (order : Int → Int → Bool) :
    (database.instantTruth row column moment order == some true) =
      (database.instant row column).any fun instant =>
        order instant (database.instantOf moment) := by
  rw [instantTruth]
  cases database.instant row column <;> simp

/-- The clause for the bounds is one factor, and it means the bounds. -/
theorem clause?_meaning {range : DateRange} {clause : List Char}
    (given : range.clause? = some clause) :
    ∃ formula, IsFactor (tokens clause) formula ∧
      ∀ {ρ : Type} (database : Database ρ) (row : ρ) (all : Bindings),
        Bound all range.bindings →
        database.holds row all formula = database.within row range := by
  have time : Column.ofExactName? "timestamp".toList = some .timestamp := rfl
  obtain ⟨first | first, last | last⟩ := range
  · cases given
  · obtain rfl := Option.some.inj given
    refine ⟨.atom (.atMost "timestamp".toList "to_date".toList),
      .atom (fun _ => rfl) (by decide +kernel), ?_⟩
    intro ρ database row all bound
    have upper : Bound all [("to_date", .moment last)] := bound
    simp only [Database.holds, Database.truth, Database.atomTruth, time,
      momentOf?_of_bound upper, Option.bind_eq_bind, Option.bind_some,
      Database.instantTruth_eq_true, Database.within, Option.all_none, Option.all_some,
      Bool.true_and]
  · obtain rfl := Option.some.inj given
    refine ⟨.atom (.atLeast "timestamp".toList "from_date".toList),
      .atom (fun _ => rfl) (by decide +kernel), ?_⟩
    intro ρ database row all bound
    have lower : Bound all [("from_date", .moment first)] := bound
    simp only [Database.holds, Database.truth, Database.atomTruth, time,
      momentOf?_of_bound lower, Option.bind_eq_bind, Option.bind_some,
      Database.instantTruth_eq_true, Database.within, Option.all_none, Option.all_some,
      Bool.and_true]
  · obtain rfl := Option.some.inj given
    refine ⟨.atom (.between "timestamp".toList "from_date".toList "to_date".toList),
      .atom (fun _ => rfl) (by decide +kernel), ?_⟩
    intro ρ database row all bound
    have both : Bound all ([("from_date", .moment first)] ++ [("to_date", .moment last)]) := bound
    simp only [Database.holds, Database.truth, Database.atomTruth, time,
      momentOf?_of_bound both.of_append.1, momentOf?_of_bound both.of_append.2,
      Option.bind_eq_bind, Option.bind_some, kleeneAnd_eq_true, Database.instantTruth_eq_true,
      Database.within, Option.all_some]

/-- Nothing is left out of a row's time when there are no bounds. -/
theorem Database.within_of_clause?_eq_none {ρ : Type} (database : Database ρ) (row : ρ)
    {range : DateRange} (absent : range.clause? = none) : database.within row range = true := by
  obtain ⟨_ | _, _ | _⟩ := range
  · rfl
  all_goals cases absent

/-- The clauses behind the first are the bounds. -/
theorem clauses_meaning (range : DateRange) :
    ∃ formulas, AreClauses range.clause?.toList formulas ∧
      ∀ {ρ : Type} (database : Database ρ) (row : ρ) (all : Bindings),
        Bound all range.bindings →
        formulas.all (database.holds row all) = database.within row range := by
  cases given : range.clause? with
  | none =>
      refine ⟨[], .nil, fun database row all _ => ?_⟩
      rw [database.within_of_clause?_eq_none row given]
      rfl
  | some clause =>
      obtain ⟨formula, factor, meaning⟩ := clause?_meaning given
      refine ⟨[formula], .cons factor .nil, fun database row all bound => ?_⟩
      rw [List.all_cons, List.all_nil, Bool.and_true, meaning database row all bound]

/-- Clauses in front of the bounds that select the rows of which something is true. -/
structure Means {ρ : Type} (database : Database ρ) (clauses : List (List Char)) (own : Bindings)
    (truth : ρ → Bool) : Prop where
  distinct : (names own).Nodup
  apart : ∀ name ∈ names own, name ∉ commonNames
  read : ∃ formulas, AreClauses clauses formulas ∧ ∀ (row : ρ) (all : Bindings), Bound all own →
    formulas.all (database.holds row all) = truth row

/-- No clauses select every row. -/
theorem Means.everything {ρ : Type} (database : Database ρ) :
    Means database [] [] fun _ => true where
  distinct := List.nodup_nil
  apart := by simp [names]
  read := ⟨[], .nil, fun _ _ _ => rfl⟩

/-- A filter selects the rows that meet one run of its conditions. -/
theorem Means.filter {ρ : Type} (database : Database ρ) {condition : Condition}
    {rest : List Condition} {filter : Filter} {own : Bindings}
    (built : filterOf (condition :: rest) = .ok (some filter, own)) :
    Means database [filter.text] own
      fun row => anyRun Condition.joiner (database.meets row) (condition :: rest) where
  distinct := (filterOf_names built).1
  apart name member := by
    obtain ⟨index, named⟩ := (filterOf_names built).2 name member
    exact named.not_mem_commonNames
  read := by
    obtain ⟨formula, factor, meaning⟩ := filterOf_meaning built
    refine ⟨[formula], .cons factor .nil, fun row all bound => ?_⟩
    rw [List.all_cons, List.all_nil, Bool.and_true, meaning database row all bound]

/-- A text search selects the rows whose lexemes meet the expression. -/
theorem Means.search {ρ : Type} (database : Database ρ) (expression configuration : String) :
    Means database [matchClause]
      [("query", .text expression), ("ts_config", .text configuration)]
      fun row => database.found row configuration expression == some true where
  distinct := by simp [names]
  apart := by simp [names, commonNames]
  read := by
    refine ⟨[.atom (.search vectorColumn "ts_config".toList "query".toList)],
      .cons (.atom (fun _ => rfl) (by decide +kernel)) .nil, fun row all bound => ?_⟩
    have query : Database.textOf? all "query".toList = some expression := by
      rw [Database.textOf?, String.ofList_toList, bound ("query", .text expression) (by simp)]
    have active : Database.textOf? all "ts_config".toList = some configuration := by
      rw [Database.textOf?, String.ofList_toList,
        bound ("ts_config", .text configuration) (by simp)]
    have column : (vectorColumn == "search_vector".toList) = true := by decide +kernel
    simp only [List.all_cons, List.all_nil, Bool.and_true, Database.holds, Database.truth,
      Database.atomTruth, query, active, Option.bind_eq_bind, Option.bind_some, column, if_true]

/-- What is read of a selection whose clauses have a meaning. -/
theorem Means.reading {ρ : Type} {database : Database ρ} {clauses : List (List Char)}
    {own : Bindings} {truth : ρ → Bool} (means : Means database clauses own truth)
    (range : DateRange) (select : List Char) (plain : ∀ token ∈ tokens select, token ≠ .fromWord)
    (order : Option SortKey) (paginated : Bool) (window : Bindings)
    (common : (names window).Sublist ["limit", "offset"]) :
    ∃ condition, Reading.ofText? (selection select (clauses ++ range.clause?.toList)
        (order.toList.map SortKey.text) paginated) = some {
          selected := tokens select
          table := tableName
          condition
          order := order.toList.map SortKey.named
          window := if paginated then some ("limit".toList, "offset".toList) else none } ∧
      ∀ row, condition.all (database.holds row (own ++ range.bindings ++ window)) =
        (truth row && database.within row range) := by
  obtain ⟨formulas, factors, meaning⟩ := means.read
  obtain ⟨bounds, boundFactors, boundMeaning⟩ := clauses_meaning range
  have bound : Bound (own ++ range.bindings ++ window) (own ++ (range.bindings ++ window)) := by
    have distinct := nodup_names range means.distinct means.apart common
    rw [List.append_assoc] at distinct ⊢
    exact .of_nodup distinct
  obtain ⟨ownBound, otherBound⟩ := bound.of_append
  refine ⟨Formula.all? (formulas ++ bounds), Reading.ofText?_selection order paginated plain
    (List.rel_append factors boundFactors), fun row => ?_⟩
  rw [Database.all_holds_all?, List.all_append, meaning row _ ownBound,
    boundMeaning database row _ otherBound.of_append.1]

/-- A selection whose clauses have a meaning selects the rows of which that is true. -/
theorem Means.admits {ρ : Type} {database : Database ρ} {clauses : List (List Char)}
    {own : Bindings} {truth : ρ → Bool} (means : Means database clauses own truth)
    (range : DateRange) (select : List Char) (plain : ∀ token ∈ tokens select, token ≠ .fromWord)
    (order : Option SortKey) (paginated : Bool) (window : Bindings)
    (common : (names window).Sublist ["limit", "offset"]) (row : ρ) :
    database.admits row ⟨selection select (clauses ++ range.clause?.toList)
        (order.toList.map SortKey.text) paginated, own ++ range.bindings ++ window⟩ =
      some (truth row && database.within row range) := by
  obtain ⟨condition, read, meaning⟩ :=
    means.reading range select plain order paginated window common
  rw [Database.admits, read, Option.map_some, meaning row]

/-- What is selected never reads as the beginning of another clause. -/
theorem plain_selectCount : ∀ token ∈ tokens selectCount, token ≠ .fromWord := by decide +kernel

theorem plain_selectColumns : ∀ token ∈ tokens selectColumns, token ≠ .fromWord := by
  decide +kernel

theorem plain_selectRanked : ∀ token ∈ tokens selectRanked, token ≠ .fromWord := by
  decide +kernel

/-- The condition of both statements of a search on columns holds for a row exactly when one run
of the conditions holds as a whole and the time lies within the bounds.  The operator of the first
condition changes nothing. -/
theorem filter_semantics {ρ : Type} (database : Database ρ) (row : ρ) (first : Condition)
    (rest : List Condition) (range : DateRange)
    (named : ∀ condition ∈ first :: rest, ∀ name ∈ condition.column,
      (Column.ofName? name).isSome)
    (joined : ∀ condition ∈ rest, (condition.operator.bind Joiner.ofWord?).isSome) :
    ∃ filter own,
      (∀ operator, filterOf ({ first with operator } :: rest) = .ok (some filter, own)) ∧
      database.admits row
          (countStatement (filter.text :: range.clause?.toList) (own ++ range.bindings)) =
        some (anyRun Condition.joiner (database.meets row) (first :: rest) &&
          database.within row range) ∧
      ∀ key window, database.admits row (pageStatement selectColumns
          (filter.text :: range.clause?.toList) key window (own ++ range.bindings)) =
        some (anyRun Condition.joiner (database.meets row) (first :: rest) &&
          database.within row range) := by
  obtain ⟨filter, own, built⟩ := filterOf_ok named joined
  refine ⟨filter, own, fun operator => built, ?_, fun key window => ?_⟩
  · have count := (Means.filter database built).admits range selectCount plain_selectCount none
      false [] (List.nil_sublist _) row
    rwa [List.append_nil] at count
  · exact (Means.filter database built).admits range selectColumns plain_selectColumns (some key)
      true [("limit", .int window.limit), ("offset", .int window.offset)] (.refl _) row

/-- A database of one row: its cells all read `ann 7`, and its time is zero. -/
def oneRow : Database Unit where
  text _ _ := some "ann 7".toList
  instant _ _ := some 0
  instantOf _ := 0
  like _ _ := false
  ilike _ pattern := pattern == "%ann%".toList
  found _ _ _ := none

theorem filter_semantics_oneRow :
    ∃ filter own,
      (∀ operator, filterOf [⟨some "ID".toList, "7".toList, operator⟩,
        ⟨none, "ann".toList, some "or".toList⟩] = .ok (some filter, own)) ∧
      oneRow.admits () (countStatement [filter.text, "timestamp >= :from_date".toList]
        (own ++ [("from_date", .moment default)])) = some true := by
  obtain ⟨filter, own, built, count, _⟩ :=
    filter_semantics oneRow () ⟨some "ID".toList, "7".toList, none⟩
      [⟨none, "ann".toList, some "or".toList⟩] ⟨some default, none⟩ (by decide +kernel)
      (by decide +kernel)
  have truth : (anyRun Condition.joiner (oneRow.meets ()) [⟨some "ID".toList, "7".toList, none⟩,
      ⟨none, "ann".toList, some "or".toList⟩] && oneRow.within () ⟨some default, none⟩) = true := by
    decide +kernel
  exact ⟨filter, own, built, count.trans (congrArg some truth)⟩

end AuditTrail.Sql
