import AuditTrail.Proofs.Column
import AuditTrail.Proofs.Sql.Meaning
import AuditTrail.Proofs.Sql.Placeholder

/-!
# The fragments of conditions

Any list of conditions either makes a fragment of a statement or is refused.  It is refused exactly
when a condition names a column that does not exist, or one behind the first has an operator that
does not join.  A fragment names columns of the audit log alone, and each of its placeholders stands
in the operand of one condition.
-/

namespace AuditTrail.Query

open Text

/-- Whether a condition names a column, and in lower case that is the name of no column. -/
def Condition.NamesUnknown (condition : Condition) : Prop :=
  ∃ name, condition.column = some name ∧ ∀ column : Column, lower name ≠ column.name.toList

/-- Whether the operator of a condition, in upper case, is neither AND nor OR; a missing one counts
as an empty one. -/
def Condition.JoinsNothing (condition : Condition) : Prop :=
  upper (condition.operator.getD []) ≠ "AND".toList ∧
    upper (condition.operator.getD []) ≠ "OR".toList

theorem Condition.namesUnknown_iff {condition : Condition} :
    condition.NamesUnknown ↔
      ∃ name, condition.column = some name ∧ Column.ofName? name = none := by
  refine exists_congr fun name => and_congr_right fun _ => ?_
  rw [Option.eq_none_iff_forall_ne_some]
  refine forall_congr' fun column => not_congr ?_
  rw [Column.ofName?, Column.ofExactName?_eq_some_iff, eq_comm]

theorem ofWord?_eq_none_iff {word : List Char} :
    Joiner.ofWord? word = none ↔ upper word ≠ "AND".toList ∧ upper word ≠ "OR".toList := by
  have names : "AND".toList = ['A', 'N', 'D'] ∧ "OR".toList = ['O', 'R'] := ⟨rfl, rfl⟩
  rw [names.1, names.2, Joiner.ofWord?, keyword?]
  by_cases both : upper word = ['A', 'N', 'D']
  · simp [both]
  · by_cases either : upper word = ['O', 'R']
    · simp [either]
    · simp only [both, either, beq_iff_eq, ↓reduceIte, ne_eq, not_false_eq_true, and_self, iff_true]
      split <;> simp_all

theorem Condition.joinsNothing_iff {condition : Condition} :
    condition.JoinsNothing ↔ condition.operator.bind Joiner.ofWord? = none := by
  obtain ⟨column, term, operator⟩ := condition
  cases operator with
  | none =>
      have empty : upper [] ≠ "AND".toList ∧ upper [] ≠ "OR".toList := by decide
      exact iff_of_true empty rfl
  | some word => exact ofWord?_eq_none_iff.symm

end AuditTrail.Query

namespace AuditTrail.Sql

open Text Query

/-- Whether a fault refuses a condition for its column. -/
def RefusesColumn (fault : Fault) (condition : Condition) : Prop :=
  condition.NamesUnknown ∧
    ∃ name ∈ condition.column, fault = .columnNotSearchable (String.ofList name)

/-- Whether a fault refuses a condition for its operator. -/
def RefusesJoin (fault : Fault) (condition : Condition) : Prop :=
  condition.JoinsNothing ∧ fault = .unsupportedJoin (condition.operator.map String.ofList)

variable {condition : Condition} {conditions : List Condition} {fault : Fault} {index : Nat}

theorem refusesColumn_of_operand (failed : operand index condition = .error fault) :
    RefusesColumn fault condition := by
  obtain ⟨named, term, operator⟩ := condition
  cases named with
  | none => cases failed
  | some name =>
      rcases error_of_bind failed with failed | ⟨column, _, failed⟩
      · rw [canonicalColumn] at failed
        split at failed
        · cases failed
        · next unknown =>
            obtain rfl := Except.error.inj failed
            exact ⟨Condition.namesUnknown_iff.mpr ⟨name, rfl, unknown⟩, name, rfl, rfl⟩
      · cases column <;> cases failed

theorem refusesJoin_of_joinerOf (failed : joinerOf condition = .error fault) :
    RefusesJoin fault condition := by
  rw [joinerOf] at failed
  split at failed
  · cases failed
  · next idle =>
      obtain rfl := Except.error.inj failed
      exact ⟨Condition.joinsNothing_iff.mpr idle, rfl⟩

theorem refuses_of_following (failed : following index conditions = .error fault) :
    (∃ condition ∈ conditions, RefusesColumn fault condition) ∨
      ∃ condition ∈ conditions, RefusesJoin fault condition := by
  induction conditions generalizing index with
  | nil => cases failed
  | cons condition rest ih =>
      rcases error_of_bind failed with failed | ⟨_, _, failed⟩
      · exact .inl ⟨condition, by simp, refusesColumn_of_operand failed⟩
      rcases error_of_bind failed with failed | ⟨_, _, failed⟩
      · exact .inr ⟨condition, by simp, refusesJoin_of_joinerOf failed⟩
      rcases error_of_bind failed with failed | ⟨_, _, failed⟩
      · refine (ih failed).imp ?_ ?_ <;>
          exact fun ⟨other, member, refused⟩ => ⟨other, List.mem_cons_of_mem _ member, refused⟩
      · cases failed

/-- A list of conditions is refused for the column of one of them, or for the operator of one behind
the first. -/
theorem refuses_of_filterOf (failed : filterOf conditions = .error fault) :
    (∃ condition ∈ conditions, RefusesColumn fault condition) ∨
      ∃ condition ∈ conditions.tail, RefusesJoin fault condition := by
  cases conditions with
  | nil => cases failed
  | cons condition rest =>
      rcases error_of_bind failed with failed | ⟨_, _, failed⟩
      · exact .inl ⟨condition, by simp, refusesColumn_of_operand failed⟩
      rcases error_of_bind failed with failed | ⟨_, _, failed⟩
      · exact (refuses_of_following failed).imp_left fun ⟨other, member, refused⟩ =>
          ⟨other, List.mem_cons_of_mem _ member, refused⟩
      · cases failed

theorem not_namesUnknown_of_operand {made : Operand} {own : Bindings}
    (built : operand index condition = .ok (made, own)) : ¬ condition.NamesUnknown := by
  rw [Condition.namesUnknown_iff]
  rintro ⟨name, given, unknown⟩
  rcases operand_cases built with ⟨free, _⟩ | ⟨other, named, found, _⟩ |
    ⟨other, column, named, found, _⟩
  · cases free.symm.trans given
  all_goals
    obtain rfl := Option.some.inj (named.symm.trans given)
    cases found.symm.trans unknown

theorem not_joinsNothing_of_joinerOf {joiner : Joiner} (joined : joinerOf condition = .ok joiner) :
    ¬ condition.JoinsNothing := by
  rw [Condition.joinsNothing_iff]
  intro idle
  rw [joinerOf, idle] at joined
  cases joined

theorem accepts_of_following {operands : List (Joiner × Operand)} {bindings : Bindings}
    (built : following index conditions = .ok (operands, bindings)) :
    ∀ condition ∈ conditions, ¬ condition.NamesUnknown ∧ ¬ condition.JoinsNothing := by
  induction conditions generalizing index operands bindings with
  | nil => nofun
  | cons condition rest ih =>
      obtain ⟨made, own, joiner, later, more, first, joined, last, rfl, rfl⟩ :=
        following_cons built
      intro other member
      rcases List.mem_cons.mp member with rfl | behind
      · exact ⟨not_namesUnknown_of_operand first, not_joinsNothing_of_joinerOf joined⟩
      · exact ih last other behind

/-- Conditions that make a fragment name columns that exist, and join behind the first one. -/
theorem accepts_of_filterOf {filter : Option Filter} {bindings : Bindings}
    (built : filterOf conditions = .ok (filter, bindings)) :
    (∀ condition ∈ conditions, ¬ condition.NamesUnknown) ∧
      ∀ condition ∈ conditions.tail, ¬ condition.JoinsNothing := by
  cases conditions with
  | nil => exact ⟨nofun, nofun⟩
  | cons condition rest =>
      obtain ⟨first, own, later, more, leading, last, -, -⟩ := filterOf_cons built
      have accepted := accepts_of_following last
      refine ⟨fun other member => ?_, fun other member => (accepted other member).2⟩
      rcases List.mem_cons.mp member with rfl | behind
      · exact not_namesUnknown_of_operand leading
      · exact (accepted other behind).1

theorem exists_error_iff :
    (∃ fault, filterOf conditions = .error fault) ↔
      (∃ condition ∈ conditions, condition.NamesUnknown) ∨
        ∃ condition ∈ conditions.tail, condition.JoinsNothing := by
  constructor
  · rintro ⟨fault, failed⟩
    exact (refuses_of_filterOf failed).imp
      (fun ⟨condition, member, refused⟩ => ⟨condition, member, refused.1⟩)
      fun ⟨condition, member, refused⟩ => ⟨condition, member, refused.1⟩
  · intro bad
    cases built : filterOf conditions with
    | error fault => exact ⟨fault, rfl⟩
    | ok made =>
        obtain ⟨known, joined⟩ := accepts_of_filterOf built
        rcases bad with ⟨condition, member, unknown⟩ | ⟨condition, member, idle⟩
        · exact absurd unknown (known condition member)
        · exact absurd idle (joined condition member)

/-- The text of a filter in a statement; there is none where nothing is filtered. -/
def fragment (filter : Option Filter) : List Char := (filter.map Filter.text).getD []

/-- Whether a token names something that is not a parameter: a column or a type, for instance. -/
def Token.isIdentifier : Token → Bool
  | word _ | conversion _ => true
  | _ => false

/-- The identifiers of a text, in their order. -/
def identifiers (text : List Char) : List Token := (tokens text).filter Token.isIdentifier

theorem identifiers_append_space (text rest : List Char) :
    identifiers (text ++ ' ' :: rest) = identifiers text ++ identifiers rest := by
  rw [identifiers, tokens_append_space, List.filter_append]
  rfl

theorem identifiers_parenthesized (text : List Char) :
    identifiers ('(' :: text ++ [')']) = identifiers text := by
  rw [identifiers, List.cons_append, tokens_opening, tokens_append_closing, tokens_nil,
    List.filter_cons_of_neg (by decide), List.filter_append]
  exact List.append_nil _

theorem identifiers_or (left rest : List Char) :
    identifiers (left ++ (" OR ".toList ++ rest)) = identifiers left ++ identifiers rest := by
  have word : " OR ".toList ++ rest = ' ' :: ("OR".toList ++ ' ' :: rest) := rfl
  rw [word, identifiers_append_space, identifiers_append_space]
  rfl

/-- Whether a token is an identifier that fragments may have: the name of a column or the type into
which columns are converted. -/
def Token.IsListed (token : Token) : Prop :=
  token = .conversion "text".toList ∨ ∃ column : Column, token = .word column.name.toList

theorem Comparison.isListed {c : Comparison} (named : c.Named) :
    ∀ token ∈ identifiers c.text, token.IsListed := by
  have found : identifiers c.text = [.word c.column.name.toList, .conversion "text".toList] := by
    rw [identifiers, tokens_comparison c named]
    cases c.comparator <;> rfl
  rw [found]
  intro token member
  rcases List.mem_cons.mp member with rfl | member
  · exact .inr ⟨c.column, rfl⟩
  · exact .inl (List.mem_singleton.mp member)

theorem Operand.isListed {operand : Operand} (named : ∀ c ∈ operand.comparisons, c.Named) :
    ∀ token ∈ identifiers operand.text, token.IsListed := by
  cases operand with
  | single comparison => exact Comparison.isListed (named comparison (List.mem_singleton_self _))
  | anyOf alternatives =>
      rw [text, identifiers_parenthesized, join_of_cut identifiers_or rfl]
      intro token member
      rw [List.flatMap_map] at member
      obtain ⟨c, among, own⟩ := List.mem_flatMap.mp member
      exact Comparison.isListed (named c among) token own

theorem isListed_of_operand {made : Operand} {own : Bindings}
    (built : operand index condition = .ok (made, own)) :
    ∀ token ∈ identifiers made.text, token.IsListed := by
  refine Operand.isListed fun c member => ?_
  rcases operand_cases built with ⟨_, rfl, _⟩ | ⟨_, _, _, rfl, _⟩ | ⟨_, _, _, _, _, rfl, _⟩
  · obtain ⟨column, _, rfl⟩ := List.mem_map.mp member
    exact tokens_parameterName index
  · rcases List.mem_cons.mp member with rfl | member
    · exact tokens_parameterName index
    · obtain rfl := List.mem_singleton.mp member
      exact tokens_patternName index
  · obtain rfl := List.mem_singleton.mp member
    exact tokens_parameterName index

theorem Filter.identifiers_text (filter : Filter) :
    identifiers filter.text = identifiers filter.first.text ++
      filter.rest.flatMap fun joined => identifiers joined.2.text := by
  have cut : ∀ left rest, identifiers (left ++ ([' '] ++ rest)) =
      identifiers left ++ identifiers rest := identifiers_append_space
  have joined (next : Joiner × Operand) :
      identifiers (next.1.word ++ ' ' :: next.2.text) = identifiers next.2.text := by
    rw [identifiers_append_space, show identifiers next.1.word = [] by cases next.1 <;> rfl]
    rfl
  rw [text, List.cons_append, identifiers_parenthesized]
  refine (append_flatMap_of_cut cut filter.first.text
    (fun next : Joiner × Operand => next.1.word ++ ' ' :: next.2.text) filter.rest).trans ?_
  simp only [joined]

theorem isListed_of_following {operands : List (Joiner × Operand)} {bindings : Bindings}
    (built : following index conditions = .ok (operands, bindings)) :
    ∀ joined ∈ operands, ∀ token ∈ identifiers joined.2.text, token.IsListed := by
  induction conditions generalizing index operands bindings with
  | nil =>
      obtain ⟨rfl, -⟩ := Prod.mk.inj (Except.ok.inj built)
      nofun
  | cons condition rest ih =>
      obtain ⟨made, own, joiner, later, more, first, _, last, rfl, rfl⟩ := following_cons built
      intro joined member
      rcases List.mem_cons.mp member with rfl | behind
      · exact isListed_of_operand first
      · exact ih last joined behind

/-- A fragment has no identifiers but names of columns and the type of a text. -/
theorem isListed_of_filterOf {filter : Option Filter} {bindings : Bindings}
    (built : filterOf conditions = .ok (filter, bindings)) :
    ∀ token ∈ identifiers (fragment filter), token.IsListed := by
  cases conditions with
  | nil =>
      obtain ⟨rfl, -⟩ := Prod.mk.inj (Except.ok.inj built)
      nofun
  | cons condition rest =>
      obtain ⟨first, own, later, more, leading, last, rfl, -⟩ := filterOf_cons built
      intro token member
      rw [fragment, Option.map_some, Option.getD_some, Filter.identifiers_text,
        List.mem_append, List.mem_flatMap] at member
      rcases member with front | ⟨joined, among, own⟩
      · exact isListed_of_operand leading token front
      · exact isListed_of_following last joined among token own

theorem fragment_eq_nil_iff {filter : Option Filter} {bindings : Bindings}
    (built : filterOf conditions = .ok (filter, bindings)) :
    fragment filter = [] ↔ conditions = [] := by
  cases conditions with
  | nil =>
      obtain ⟨rfl, -⟩ := Prod.mk.inj (Except.ok.inj built)
      exact iff_of_true rfl rfl
  | cons condition rest =>
      obtain ⟨first, own, later, more, leading, last, rfl, -⟩ := filterOf_cons built
      exact iff_of_false (by simp [fragment, Filter.text]) (by simp)

/-- Whether a name stands as a placeholder in the operand of the condition at an index. -/
def IsUsedAt (conditions : List Condition) (index : Nat) (name : List Char) : Prop :=
  ∃ condition made own, conditions[index]? = some condition ∧
    operand index condition = .ok (made, own) ∧ IsPlaceholder made.text name

theorem IsUsedAt.isParameterOf {name : List Char} (used : IsUsedAt conditions index name) :
    IsParameterOf index (String.ofList name) := by
  obtain ⟨condition, made, own, -, built, stands⟩ := used
  refine (operand_names built).2 _ ((areBound_operand built _).mp ?_)
  rwa [String.toList_ofList, mem_placeholders_iff]

/-- Every operand behind the first one belongs to a condition. -/
theorem exists_operand_of_following {start : Nat} {operands : List (Joiner × Operand)}
    {bindings : Bindings} (built : following start conditions = .ok (operands, bindings))
    {joined : Joiner × Operand} (member : joined ∈ operands) :
    ∃ index condition own, conditions[index]? = some condition ∧
      operand (start + index) condition = .ok (joined.2, own) := by
  induction conditions generalizing start operands bindings with
  | nil =>
      obtain ⟨rfl, -⟩ := Prod.mk.inj (Except.ok.inj built)
      cases member
  | cons condition rest ih =>
      obtain ⟨made, own, joiner, later, more, first, _, last, rfl, rfl⟩ := following_cons built
      rcases List.mem_cons.mp member with rfl | behind
      · exact ⟨0, condition, own, rfl, first⟩
      · obtain ⟨index, other, part, found, stands⟩ := ih last behind
        rw [Nat.add_right_comm] at stands
        exact ⟨index + 1, other, part, found, stands⟩

/-- A placeholder of a fragment stands in the operand of one condition, and of no other. -/
theorem existsUnique_of_isPlaceholder {filter : Option Filter} {bindings : Bindings}
    (built : filterOf conditions = .ok (filter, bindings)) {name : List Char}
    (stands : IsPlaceholder (fragment filter) name) :
    ∃! index, IsUsedAt conditions index name := by
  suffices used : ∃ index, IsUsedAt conditions index name by
    obtain ⟨index, here⟩ := used
    exact ⟨index, here, fun other there => there.isParameterOf.unique here.isParameterOf⟩
  rw [← mem_placeholders_iff] at stands
  cases conditions with
  | nil =>
      obtain ⟨rfl, -⟩ := Prod.mk.inj (Except.ok.inj built)
      cases stands
  | cons condition rest =>
      obtain ⟨first, own, later, more, leading, last, rfl, -⟩ := filterOf_cons built
      rw [fragment, Option.map_some, Option.getD_some, Filter.placeholders_text,
        List.mem_append, List.mem_flatMap] at stands
      rcases stands with front | ⟨joined, among, inside⟩
      · exact ⟨0, condition, first, own, rfl, leading, mem_placeholders_iff.mp front⟩
      · obtain ⟨index, other, part, found, made⟩ := exists_operand_of_following last among
        rw [Nat.add_comm] at made
        exact ⟨index + 1, other, joined.2, part, found, made, mem_placeholders_iff.mp inside⟩

/-- Conditions make a fragment unless one of them names a column that does not exist or one behind
the first joins nothing; then the fault is one of a value, and it tells the column or the operator.
The fragment is empty for no conditions alone, it has no identifiers but names of columns and the
type of a text, and each of its placeholders stands in the operand of exactly one condition. -/
theorem fragment_of_any_conditions (conditions : List Condition) :
    ((∃ fault, filterOf conditions = .error fault ∧ fault.kind = .value) ↔
      (∃ condition ∈ conditions, condition.NamesUnknown) ∨
        ∃ condition ∈ conditions.tail, condition.JoinsNothing) ∧
    (∀ fault, filterOf conditions = .error fault → fault.kind = .value ∧
      ((∃ condition ∈ conditions, RefusesColumn fault condition) ∨
        ∃ condition ∈ conditions.tail, RefusesJoin fault condition)) ∧
    ∀ filter bindings, filterOf conditions = .ok (filter, bindings) →
      (fragment filter = [] ↔ conditions = []) ∧
      (∀ token ∈ identifiers (fragment filter), token.IsListed) ∧
      ∀ name, IsPlaceholder (fragment filter) name → ∃! index, IsUsedAt conditions index name := by
  have kind : ∀ fault, filterOf conditions = .error fault → fault.kind = .value := by
    intro fault failed
    rcases refuses_of_filterOf failed with ⟨_, _, _, _, _, rfl⟩ | ⟨_, _, _, rfl⟩ <;> rfl
  refine ⟨?_, fun fault failed => ⟨kind fault failed, refuses_of_filterOf failed⟩, ?_⟩
  · rw [← exists_error_iff]
    exact exists_congr fun fault => and_iff_left_of_imp (kind fault)
  · intro filter bindings built
    exact ⟨fragment_eq_nil_iff built, isListed_of_filterOf built,
      fun name => existsUnique_of_isPlaceholder built⟩

/-- A number with an operator that does not join, and a term without a column. -/
def numberOrTerm : List Condition :=
  [⟨some "Id".toList, "7".toList, some "xor".toList⟩, ⟨none, "ann".toList, some "or".toList⟩]

/-- The filter of a number or a term without a column. -/
def numberOrTermFilter : Filter where
  first := .anyOf [⟨.id, .equal, "p0".toList⟩, ⟨.id, .like, "p0_like".toList⟩]
  rest := [(.or, .anyOf (Column.freeText.map fun column => ⟨column, .ilike, "p1".toList⟩))]

/-- An operator is not looked at in the first condition, and refused in any other one. -/
theorem fragment_of_any_conditions_number :
    (∃ bindings, filterOf numberOrTerm = .ok (some numberOrTermFilter, bindings)) ∧
      fragment (some numberOrTermFilter) ≠ [] ∧
      IsPlaceholder (fragment (some numberOrTermFilter)) "p0_like".toList ∧
      (∃! index, IsUsedAt numberOrTerm index "p0_like".toList) ∧
      ∃ fault, filterOf numberOrTerm.reverse = .error fault ∧ fault.kind = .value := by
  have built : filterOf numberOrTerm = .ok (some numberOrTermFilter,
      [("p0", .text "7"), ("p0_like", .text "%7%"), ("p1", .text "%ann%")]) := rfl
  have stands : IsPlaceholder (fragment (some numberOrTermFilter)) "p0_like".toList :=
    mem_placeholders_iff.mp (by decide +kernel)
  have idle : Condition.JoinsNothing ⟨some "Id".toList, "7".toList, some "xor".toList⟩ :=
    ⟨by decide +kernel, by decide +kernel⟩
  obtain ⟨empty, -, used⟩ := (fragment_of_any_conditions numberOrTerm).2.2 _ _ built
  refine ⟨⟨_, built⟩, fun none => ?_, stands, used _ stands,
    (fragment_of_any_conditions numberOrTerm.reverse).1.mpr (.inr ⟨_, ?_, idle⟩)⟩
  · cases empty.mp none
  · simp [numberOrTerm]

end AuditTrail.Sql
