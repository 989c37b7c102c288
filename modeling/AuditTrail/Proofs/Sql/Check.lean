import AuditTrail.Proofs.Column
import AuditTrail.Proofs.Sql.Filter

/-!
# The checks of compiled conditions

A search text is checked when it is made ready and again when its filter is made.  The second check
never fails: the conditions of a search text name columns by their own names and are joined by AND
and OR alone, although any spelling of a column that differs in the case of ASCII letters is taken
up.
-/

namespace AuditTrail.Sql

open Text Query

theorem canonicalColumn_name (column : Column) :
    canonicalColumn column.name.toList = .ok column := by
  rw [canonicalColumn, ofName?_name]

/-- Every list of canonical conditions makes a filter; no conditions make none. -/
theorem filterOf_ok_of_isCanonical {conditions : List Condition}
    (canonical : ∀ condition ∈ conditions, condition.IsCanonical) :
    ∃ filter bindings, filterOf conditions = .ok (filter, bindings) := by
  cases conditions with
  | nil => exact ⟨none, [], rfl⟩
  | cons first rest =>
      obtain ⟨filter, bindings, built⟩ := filterOf_ok
        (fun other member => (canonical other member).isProper.named)
        fun other member => (canonical other (List.mem_cons_of_mem first member)).isProper.joined
      exact ⟨some filter, bindings, built⟩

/-- Conditions of a search text pass every check behind it, and a column is known by exactly the
spellings of its name in ASCII letters of any case. -/
theorem compiled_conditions_pass :
    (∀ text, ∀ condition ∈ (compile text).conditions,
      (∀ name ∈ condition.column, ∃ column : Column,
        name = column.name.toList ∧ canonicalColumn name = .ok column) ∧
      (condition.operator = some "AND".toList ∨ condition.operator = some "OR".toList)) ∧
    (∀ text, ∃ filter bindings, filterOf (compile text).conditions = .ok (filter, bindings)) ∧
    ∀ name, (Column.ofName? name).isSome ↔
      ∃ column : Column, name.map Char.toLower = column.name.toList := by
  refine ⟨fun text condition member => ?_, fun text => ?_, fun name => ?_⟩
  · have canonical := isCanonical_of_mem_compile member
    constructor
    · intro name given
      obtain ⟨column, rfl⟩ := canonical.named name given
      exact ⟨column, rfl, canonicalColumn_name column⟩
    · obtain ⟨joiner, same⟩ := canonical.joined
      cases joiner with
      | and => exact .inl same
      | or => exact .inr same
  · exact filterOf_ok_of_isCanonical fun condition => isCanonical_of_mem_compile
  · rw [Option.isSome_iff_exists]
    exact exists_congr fun column => Column.ofName?_eq_some_iff

theorem compiled_conditions_pass_upperCase :
    (⟨some "user_id".toList, "ann".toList, some "OR".toList⟩ : Condition) ∈
        (compile "x or USER_ID:ann".toList).conditions ∧
      ∃ column : Column, "user_id".toList = column.name.toList ∧
        canonicalColumn "user_id".toList = .ok column := by
  have member : (⟨some "user_id".toList, "ann".toList, some "OR".toList⟩ : Condition) ∈
      (compile "x or USER_ID:ann".toList).conditions := by decide +kernel
  exact ⟨member, (compiled_conditions_pass.1 _ _ member).1 _ rfl⟩

end AuditTrail.Sql
