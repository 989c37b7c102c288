import AuditTrail.Proofs.Sql.Filter
import AuditTrail.Proofs.Sql.Token
import AuditTrail.Sql.Statement

/-!
# The parameters of a statement

The conditions of a filter number their parameters, so no two parameters of a statement share a
name, and each is bound to the value of its own condition.
-/

namespace AuditTrail.Sql

open Text Query

theorem name_of_mem_toDigits {index : Nat} {c : Char} (inside : c ∈ Nat.toDigits 10 index) :
    CharKind.of c = .name := by
  have digit : c.isDigit = true := Nat.isDigit_of_mem_toDigits (by decide) (by decide) inside
  simp [CharKind.of, Char.isAlphanum, digit]

theorem name_of_mem_parameterName {index : Nat} {c : Char} (inside : c ∈ parameterName index) :
    CharKind.of c = .name := by
  rcases List.mem_cons.mp inside with first | digit
  · rw [first]
    rfl
  · exact name_of_mem_toDigits digit

theorem name_of_mem_patternName {index : Nat} {c : Char} (inside : c ∈ patternName index) :
    CharKind.of c = .name := by
  rcases List.mem_append.mp inside with front | suffix
  · exact name_of_mem_parameterName front
  · have letters : "_like".toList.all fun c => CharKind.of c = .name := by decide +kernel
    exact of_decide_eq_true (List.all_eq_true.mp letters c suffix)

theorem tokens_parameterName (index : Nat) :
    tokens (':' :: parameterName index) = [.parameter (parameterName index)] :=
  tokens_parameter (by simp [parameterName]) fun _ => name_of_mem_parameterName

theorem tokens_patternName (index : Nat) :
    tokens (':' :: patternName index) = [.parameter (patternName index)] :=
  tokens_parameter (by simp [patternName, parameterName]) fun _ => name_of_mem_patternName

theorem parameterName_injective {first second : Nat}
    (same : parameterName first = parameterName second) : first = second := by
  have digits := congrArg (Nat.ofDigitChars 10 · 0) (List.cons.inj same).2
  simpa only [Nat.ofDigitChars_ten_toDigits] using digits

theorem patternName_injective {first second : Nat}
    (same : patternName first = patternName second) : first = second :=
  parameterName_injective (List.append_cancel_right same)

/-- The name of a pattern has an underscore, other parameters of conditions have none. -/
theorem parameterName_ne_patternName (first second : Nat) :
    parameterName first ≠ patternName second := by
  intro same
  have underscore : '_' ∈ parameterName first := by
    rw [same]
    simp [patternName]
  rcases List.mem_cons.mp underscore with letter | digit
  · exact absurd letter (by decide)
  · exact Nat.underscore_not_in_toDigits digit

/-- Whether a name is that of a parameter of the condition at an index. -/
def IsParameterOf (index : Nat) (name : String) : Prop :=
  name = String.ofList (parameterName index) ∨ name = String.ofList (patternName index)

theorem IsParameterOf.unique {first second : Nat} {name : String}
    (one : IsParameterOf first name) (other : IsParameterOf second name) : first = second := by
  rcases one with one | one <;> rcases other with other | other <;>
    have same := String.ofList_injective (one.symm.trans other)
  · exact parameterName_injective same
  · exact absurd same (parameterName_ne_patternName first second)
  · exact absurd same.symm (parameterName_ne_patternName second first)
  · exact patternName_injective same

/-- The names of parameters of conditions begin with one letter. -/
theorem IsParameterOf.head {index : Nat} {name : String} (named : IsParameterOf index name) :
    name.toList.head? = some 'p' := by
  rcases named with named | named <;> rw [named, String.toList_ofList] <;> rfl

/-- The names that are bound. -/
def names (bindings : Bindings) : List String := bindings.map Prod.fst

theorem names_append (front back : Bindings) : names (front ++ back) = names front ++ names back :=
  List.map_append

/-- A value that is bound is found when no name is bound twice. -/
theorem lookup_of_mem {bindings : Bindings} (distinct : (names bindings).Nodup)
    {entry : String × Value} (bound : entry ∈ bindings) :
    bindings.lookup entry.1 = some entry.2 := by
  induction bindings with
  | nil => simp at bound
  | cons first rest ih =>
      obtain ⟨fresh, distinct⟩ := List.nodup_cons.mp distinct
      rcases List.mem_cons.mp bound with same | later
      · rw [same]
        exact List.lookup_cons_self
      · have other : entry.1 ≠ first.1 := by
          intro same
          exact fresh (same ▸ List.mem_map_of_mem later)
        rw [List.lookup_cons, beq_false_of_ne other]
        exact ih distinct later

theorem operand_names {index : Nat} {condition : Condition} {made : Operand} {bindings : Bindings}
    (built : operand index condition = .ok (made, bindings)) :
    (names bindings).Nodup ∧ ∀ name ∈ names bindings, IsParameterOf index name := by
  have single : ∀ value, (names [bindText (parameterName index) value]).Nodup ∧
      ∀ name ∈ names [bindText (parameterName index) value], IsParameterOf index name := by
    intro value
    exact ⟨by simp [names], fun name member => .inl (List.mem_singleton.mp member)⟩
  rcases operand_cases built with ⟨_, _, rfl⟩ | ⟨_, _, _, _, rfl⟩ | ⟨_, _, _, _, _, _, rfl⟩
  · exact single _
  · have distinct : String.ofList (parameterName index) ≠ String.ofList (patternName index) :=
      fun same => parameterName_ne_patternName index index (String.ofList_injective same)
    refine ⟨by simpa [names, bindText] using distinct, fun name member => ?_⟩
    simpa [names, bindText, IsParameterOf] using member
  · exact single _

/-- Parameters of a condition and of later conditions differ. -/
theorem nodup_names_append {index : Nat} {own more : Bindings} (ownDistinct : (names own).Nodup)
    (ownNames : ∀ name ∈ names own, IsParameterOf index name) (moreDistinct : (names more).Nodup)
    (moreNames : ∀ name ∈ names more, ∃ later > index, IsParameterOf later name) :
    (names (own ++ more)).Nodup := by
  rw [names_append, List.nodup_append]
  refine ⟨ownDistinct, moreDistinct, ?_⟩
  intro name front other back same
  obtain ⟨later, greater, named⟩ := moreNames other back
  have := (same ▸ ownNames name front).unique named
  omega

theorem following_names {index : Nat} {conditions : List Condition}
    {operands : List (Joiner × Operand)} {bindings : Bindings}
    (built : following index conditions = .ok (operands, bindings)) :
    (names bindings).Nodup ∧
      ∀ name ∈ names bindings, ∃ later ≥ index, IsParameterOf later name := by
  induction conditions generalizing index operands bindings with
  | nil =>
      obtain ⟨rfl, rfl⟩ := Prod.mk.inj (Except.ok.inj built)
      exact ⟨List.nodup_nil, by simp [names]⟩
  | cons condition rest ih =>
      obtain ⟨made, own, joiner, later, more, first, _, last, rfl, rfl⟩ := following_cons built
      obtain ⟨ownDistinct, ownNames⟩ := operand_names first
      obtain ⟨moreDistinct, moreNames⟩ := ih last
      refine ⟨nodup_names_append ownDistinct ownNames moreDistinct moreNames, ?_⟩
      intro name member
      rw [names_append, List.mem_append] at member
      rcases member with front | back
      · exact ⟨index, le_rfl, ownNames name front⟩
      · obtain ⟨later, greater, named⟩ := moreNames name back
        exact ⟨later, by omega, named⟩

theorem filterOf_names {conditions : List Condition} {filter : Option Filter}
    {bindings : Bindings} (built : filterOf conditions = .ok (filter, bindings)) :
    (names bindings).Nodup ∧ ∀ name ∈ names bindings, ∃ index, IsParameterOf index name := by
  cases conditions with
  | nil =>
      obtain ⟨rfl, rfl⟩ := Prod.mk.inj (Except.ok.inj built)
      exact ⟨List.nodup_nil, by simp [names]⟩
  | cons condition rest =>
      obtain ⟨first, own, later, more, leading, last, rfl, rfl⟩ := filterOf_cons built
      obtain ⟨ownDistinct, ownNames⟩ := operand_names leading
      obtain ⟨moreDistinct, moreNames⟩ := following_names last
      refine ⟨nodup_names_append ownDistinct ownNames moreDistinct moreNames, ?_⟩
      intro name member
      rw [names_append, List.mem_append] at member
      rcases member with front | back
      · exact ⟨0, ownNames name front⟩
      · obtain ⟨index, _, named⟩ := moreNames name back
        exact ⟨index, named⟩

/-- Whether the condition at an index is bound to its term: as a pattern, or in the case of a
number as it stands and as a pattern. -/
def IsBoundAt (bindings : Bindings) (index : Nat) (condition : Condition) : Prop :=
  let value (name : List Char) := bindings.lookup (String.ofList name)
  let term := Value.text (String.ofList condition.term)
  let pattern := Value.text (String.ofList (containsPattern condition.term))
  if condition.column.bind Column.ofName? = some .id then
    value (parameterName index) = some term ∧ value (patternName index) = some pattern
  else value (parameterName index) = some pattern

theorem isBoundAt_of_operand {index : Nat} {condition : Condition} {made : Operand}
    {own bindings : Bindings} (built : operand index condition = .ok (made, own))
    (bound : ∀ entry ∈ own, bindings.lookup entry.1 = some entry.2) :
    IsBoundAt bindings index condition := by
  rw [IsBoundAt]
  rcases operand_cases built with ⟨free, _, rfl⟩ | ⟨name, given, found, _, rfl⟩ |
    ⟨name, column, given, found, other, _, rfl⟩
  · rw [free, if_neg (by simp)]
    exact bound _ (List.mem_singleton_self _)
  · rw [given, Option.bind_some, if_pos found]
    exact ⟨bound _ List.mem_cons_self, bound _ (List.mem_cons_of_mem _ (List.mem_singleton_self _))⟩
  · rw [given, Option.bind_some, found, if_neg fun same => other (Option.some.inj same)]
    exact bound _ (List.mem_singleton_self _)

/-- The bindings of a condition are among those of the conditions around it. -/
theorem operand_of_following {start : Nat} {conditions : List Condition}
    {operands : List (Joiner × Operand)} {bindings : Bindings}
    (built : following start conditions = .ok (operands, bindings)) {index : Nat}
    {condition : Condition} (found : conditions[index]? = some condition) :
    ∃ made own, operand (start + index) condition = .ok (made, own) ∧ own ⊆ bindings := by
  induction conditions generalizing start operands bindings index with
  | nil => simp at found
  | cons next rest ih =>
      obtain ⟨made, own, joiner, later, more, first, _, last, rfl, rfl⟩ := following_cons built
      cases index with
      | zero =>
          obtain rfl := Option.some.inj found
          exact ⟨made, own, first, List.subset_append_left own more⟩
      | succ index =>
          obtain ⟨other, part, stands, inside⟩ := ih last found
          rw [Nat.add_right_comm] at stands
          exact ⟨other, part, stands, List.subset_append_of_subset_right own inside⟩

theorem operand_of_filterOf {conditions : List Condition} {filter : Option Filter}
    {bindings : Bindings} (built : filterOf conditions = .ok (filter, bindings)) {index : Nat}
    {condition : Condition} (found : conditions[index]? = some condition) :
    ∃ made own, operand index condition = .ok (made, own) ∧ own ⊆ bindings := by
  cases conditions with
  | nil => simp at found
  | cons first rest =>
      obtain ⟨made, own, later, more, leading, last, rfl, rfl⟩ := filterOf_cons built
      cases index with
      | zero =>
          obtain rfl := Option.some.inj found
          exact ⟨made, own, leading, List.subset_append_left own more⟩
      | succ index =>
          obtain ⟨other, part, stands, inside⟩ := operand_of_following last found
          rw [Nat.add_comm] at stands
          exact ⟨other, part, stands, List.subset_append_of_subset_right own inside⟩

/-- The names of the parameters for bounds and windows. -/
def commonNames : List String := ["from_date", "to_date", "limit", "offset"]

/-- The names of all parameters that belong to no condition. -/
def reservedNames : List String := ["query", "ts_config"] ++ commonNames

theorem IsParameterOf.not_mem_reservedNames {index : Nat} {name : String}
    (named : IsParameterOf index name) : name ∉ reservedNames := by
  have apart : ∀ name ∈ reservedNames, name.toList.head? ≠ some 'p' := by decide +kernel
  exact fun reserved => apart name reserved named.head

theorem IsParameterOf.not_mem_commonNames {index : Nat} {name : String}
    (named : IsParameterOf index name) : name ∉ commonNames :=
  fun common => named.not_mem_reservedNames (List.mem_append_right _ common)

theorem names_range_sublist (range : DateRange) :
    (names range.bindings).Sublist ["from_date", "to_date"] := by
  obtain ⟨_ | _, _ | _⟩ := range <;> simp [DateRange.bindings, names]

/-- Bindings that stay clear of bounds and windows can be put before those. -/
theorem nodup_names {own window : Bindings} (range : DateRange) (distinct : (names own).Nodup)
    (apart : ∀ name ∈ names own, name ∉ commonNames)
    (common : (names window).Sublist ["limit", "offset"]) :
    (names (own ++ range.bindings ++ window)).Nodup := by
  have others : (names (range.bindings ++ window)).Sublist commonNames := by
    rw [names_append]
    exact ((names_range_sublist range).append common).trans (by decide +kernel)
  rw [List.append_assoc, names_append, List.nodup_append]
  refine ⟨distinct, others.nodup (by decide +kernel), ?_⟩
  intro name front other back same
  exact apart name front (others.subset (same ▸ back))

end AuditTrail.Sql
