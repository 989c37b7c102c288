import AuditTrail.Proofs.Query.Named
import AuditTrail.Proofs.Sql.Check
import AuditTrail.Proofs.Sql.Like
import AuditTrail.Proofs.Sql.Parameter

/-!
# Empty terms

A term without a column is left out when nothing remains of it between its quotation marks.  A term
for a column is taken up as soon as anything stands behind the colon, before the quotation marks are
taken off.  A value of quotation marks alone therefore makes a condition with an empty term, and no
other token does; its pattern is the one that matches every text.
-/

namespace AuditTrail.Query

open Text

/-- A token that names a column and has nothing but quotation marks for a value. -/
def IsHollow (token : List Char) : Prop :=
  ∃ name marks, ∃ column : Column, IsParted (trim token) name marks ∧
    lower name = column.name.toList ∧ ∀ c ∈ marks, isQuote c = true

section Named

variable {token name value : List Char} {column : Column}

/-- The value of a column has no blanks around it. -/
theorem trim_value (whole : IsToken token) (parted : IsParted (trim token) name value)
    (known : lower name = column.name.toList) : trim value = value := by
  refine trimBy_eq_self (isBlank_value_head whole parted known) fun c last => ?_
  have front : name ++ ':' :: value = (name ++ [':']) ++ value := by simp
  have kept : c ∈ (trim token).getLast? := by
    rwa [parted.text_eq, front, List.getLast?_append_of_ne_nil _ parted.value_ne]
  exact getLast?_trimBy kept

theorem unquote_value_eq_nil_iff (whole : IsToken token)
    (parted : IsParted (trim token) name value) (known : lower name = column.name.toList) :
    unquote value = [] ↔ ∀ c ∈ value, isQuote c = true := by
  rw [unquote, trim_value whole parted known, trimBy_eq_nil_iff]

theorem isHollow_iff (whole : IsToken token) (parted : IsParted (trim token) name value)
    (known : lower name = column.name.toList) : IsHollow token ↔ unquote value = [] := by
  rw [unquote_value_eq_nil_iff whole parted known]
  constructor
  · rintro ⟨other, marks, _, again, _, quotes⟩
    obtain ⟨front, behind⟩ := parted.takeWhile_eq
    obtain ⟨_, same⟩ := again.takeWhile_eq
    obtain rfl := (List.cons.inj (behind.symm.trans same)).2
    exact quotes
  · exact fun quotes => ⟨name, value, column, parted, known, quotes⟩

end Named

theorem Asks.term_ne_nil {raw term : List Char} (asks : Asks raw none term) : term ≠ [] := by
  cases asks with
  | free _ _ filled => exact filled

theorem Asks.not_isParted {raw term : List Char} (asks : Asks raw none term)
    (name value : List Char) : ¬ IsParted (trim raw) name value := by
  cases asks with
  | free _ whole _ => exact whole name value

/-- The term of a condition is empty exactly when the token that it comes from is hollow. -/
theorem ComesFrom.term_eq_nil_iff {text : List Char} {index : Nat} {token : List Char}
    {condition : Condition} (origin : ComesFrom (tokenize text) index token)
    (found : (conditions (tokenize text))[index]? = some condition) :
    condition.term = [] ↔ IsHollow token := by
  have whole := isToken_of_mem_tokenize origin.mem
  cases named : condition.column with
  | some column =>
      obtain ⟨name, value, column, parted, known, _, term⟩ :=
        origin.parted found (by rw [named]; rfl)
      rw [term, isHollow_iff whole parted known]
  | none =>
      have asks := origin.asks found
      rw [named] at asks
      constructor
      · exact fun empty => absurd empty asks.term_ne_nil
      · rintro ⟨name, marks, _, parted, _⟩
        exact absurd parted (asks.not_isParted name marks)

/-- A hollow token makes a condition with an empty term, and the classifier sees it. -/
theorem exists_comesFrom_of_isHollow {text token : List Char} (member : token ∈ tokenize text)
    (hollow : IsHollow token) :
    isColumnSpecific text = true ∧ ∃ index, ComesFrom (tokenize text) index token := by
  have whole := isToken_of_mem_tokenize member
  obtain ⟨name, marks, column, parted, known, quotes⟩ := hollow
  constructor
  · refine isColumnSpecific_of_infix (isColumnSpecific_of_parted whole parted known ?_)
      (infix_of_mem_tokenize member)
    rw [behindColon?_of_parted whole parted]
    intro closing
    exact absurd (quotes ')' (List.mem_of_head? closing)) (by decide)
  · obtain ⟨before, after, split⟩ := List.mem_iff_append.mp member
    refine ⟨_, before, after, split, rfl, ?_⟩
    rw [conditions_concat, ofToken_of_parted parted known]
    simp [Part.made?]

end AuditTrail.Query

namespace AuditTrail.Sql

open Text Query

/-- The parameter that the pattern of the condition at an index is bound to. -/
def patternParameter (index : Nat) (condition : Condition) : List Char :=
  if condition.column.bind Column.ofName? = some .id then patternName index
  else parameterName index

theorem containsPattern_eq_iff {term : List Char} :
    containsPattern term = "%%".toList ↔ term = [] := by
  cases term with
  | nil => decide
  | cons c rest => cases rest <;> simp [containsPattern]

/-- The pattern of an empty term matches every text. -/
theorem fitsPattern_nothing (text : List Char) : fitsPattern text "%%".toList = true := by
  have literal : IsLiteral [] := nofun
  exact (fitsPattern_containsPattern literal text).mpr List.nil_infix

/-- The pattern of a condition is bound in the filter that it is part of. -/
theorem lookup_patternParameter {conditions : List Condition} {filter : Option Filter}
    {bindings : Bindings} (built : filterOf conditions = .ok (filter, bindings)) {index : Nat}
    {condition : Condition} (found : conditions[index]? = some condition) :
    bindings.lookup (String.ofList (patternParameter index condition)) =
      some (.text (String.ofList (containsPattern condition.term))) := by
  obtain ⟨made, own, operand, among⟩ := operand_of_filterOf built found
  have bound := isBoundAt_of_operand operand fun entry member =>
    lookup_of_mem (filterOf_names built).1 (among member)
  rw [IsBoundAt] at bound
  rw [patternParameter]
  split at bound
  · next number =>
      rw [if_pos number]
      exact bound.2
  · next other =>
      rw [if_neg other]
      exact bound

/-- The filter of a search text has an empty term, bound as the pattern that matches every text,
exactly for the tokens that name a column and have nothing but quotation marks for a value.  Terms
without a column are never empty. -/
theorem empty_terms_of_hollow_tokens (text : List Char) :
    ((∃ condition ∈ (compile text).conditions, condition.term = []) ↔
        ∃ token ∈ tokenize (trim text), IsHollow token) ∧
      ∃ filter bindings, filterOf (compile text).conditions = .ok (filter, bindings) ∧
        ∀ index condition, (compile text).conditions[index]? = some condition →
          (∃ token, ComesFrom (tokenize (trim text)) index token) ∧
          (∀ token, ComesFrom (tokenize (trim text)) index token →
            (condition.term = [] ↔ IsHollow token)) ∧
          (condition.column = none → condition.term ≠ []) ∧
          (bindings.lookup (String.ofList (patternParameter index condition)) =
            some (.text "%%") ↔ condition.term = []) := by
  have origin : ∀ {index : Nat} {condition : Condition},
      (compile text).conditions[index]? = some condition →
      (conditions (tokenize (trim text)))[index]? = some condition ∧
        ∃ token, ComesFrom (tokenize (trim text)) index token := by
    intro index condition found
    have found := getElem?_conditions_of_compile found
    exact ⟨found, exists_comesFrom (List.getElem?_eq_some_iff.mp found).1⟩
  constructor
  · constructor
    · rintro ⟨condition, member, empty⟩
      obtain ⟨index, found⟩ := List.mem_iff_getElem?.mp member
      obtain ⟨found, token, source⟩ := origin found
      exact ⟨token, source.mem, (source.term_eq_nil_iff found).mp empty⟩
    · rintro ⟨token, member, hollow⟩
      obtain ⟨named, index, source⟩ := exists_comesFrom_of_isHollow member hollow
      obtain ⟨condition, found⟩ := source.exists_condition
      rw [conditions_compile named]
      exact ⟨condition, List.mem_of_getElem? found, (source.term_eq_nil_iff found).mpr hollow⟩
  · obtain ⟨filter, bindings, built⟩ := filterOf_ok_of_isCanonical
      fun condition (member : condition ∈ (compile text).conditions) =>
        isCanonical_of_mem_compile member
    refine ⟨filter, bindings, built, fun index condition found => ?_⟩
    obtain ⟨translated, token, source⟩ := origin found
    refine ⟨⟨token, source⟩, fun other source => source.term_eq_nil_iff translated,
      fun free empty => ?_, ?_⟩
    · have asks := source.asks translated
      rw [free] at asks
      exact asks.term_ne_nil empty
    · rw [lookup_patternParameter built found, Option.some.injEq, Value.text.injEq,
        ← containsPattern_eq_iff]
      exact ⟨fun same => String.ofList_injective same, fun same => congrArg String.ofList same⟩

theorem empty_terms_of_hollow_tokens_quotes :
    (compile "x or Status:''".toList).conditions[1]? =
        some ⟨some "status".toList, [], some "OR".toList⟩ ∧
      ComesFrom (tokenize (trim "x or Status:''".toList)) 1 "Status:''".toList ∧
      IsHollow "Status:''".toList ∧
      ∃ filter bindings,
        filterOf (compile "x or Status:''".toList).conditions = .ok (filter, bindings) ∧
        bindings.lookup "p1" = some (.text "%%") := by
  have found : (compile "x or Status:''".toList).conditions[1]? =
      some ⟨some "status".toList, [], some "OR".toList⟩ := by decide +kernel
  have origin : ComesFrom (tokenize (trim "x or Status:''".toList)) 1 "Status:''".toList :=
    ⟨["x".toList, "or".toList], [], by decide +kernel⟩
  obtain ⟨filter, bindings, built, conditions⟩ :=
    (empty_terms_of_hollow_tokens "x or Status:''".toList).2
  obtain ⟨_, sources, _, bound⟩ := conditions 1 _ found
  exact ⟨found, origin, (sources _ origin).mp rfl, filter, bindings, built, bound.mpr rfl⟩

/-- Empty quotation marks behind a column's name and a colon let the filter match every text. -/
theorem filterOf_emptyQuotes :
    (compile "status:\"\"".toList).conditions =
        [⟨some "status".toList, [], some "AND".toList⟩] ∧
      filterOf (compile "status:\"\"".toList).conditions =
        .ok (some ⟨.single ⟨.status, .ilike, "p0".toList⟩, []⟩, [("p0", .text "%%")]) ∧
      ∀ text, fitsPattern text "%%".toList = true := by
  have compiled : (compile "status:\"\"".toList).conditions =
      [⟨some "status".toList, [], some "AND".toList⟩] := by decide +kernel
  refine ⟨compiled, ?_, fitsPattern_nothing⟩
  rw [compiled]
  rfl

end AuditTrail.Sql
