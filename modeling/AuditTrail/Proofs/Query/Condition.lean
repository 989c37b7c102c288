import AuditTrail.Query.Compiled

/-!
# The conditions of a search text

Whatever the search text is, its conditions name columns by their own names and are joined by AND
and OR alone.
-/

namespace AuditTrail.Query

open Text

/-- How a condition is joined to the one before it. -/
def Condition.joiner (condition : Condition) : Joiner :=
  (condition.operator.bind Joiner.ofWord?).getD .and

/-- A condition that names a column by a name of the audit log, if it names one, and is joined by
a joining keyword. -/
structure Condition.IsProper (condition : Condition) : Prop where
  named : ∀ name ∈ condition.column, (Column.ofName? name).isSome
  joined : (condition.operator.bind Joiner.ofWord?).isSome

theorem ofName?_name (column : Column) : Column.ofName? column.name.toList = some column := by
  cases column <;> decide +kernel

theorem ofWord?_word (joiner : Joiner) : Joiner.ofWord? joiner.word = some joiner := by
  cases joiner <;> decide +kernel

/-- A condition that is joined to the one before it by a joining keyword. -/
def Condition.IsJoined (condition : Condition) : Prop :=
  ∃ joiner : Joiner, condition.operator = some joiner.word

theorem Condition.joiner_eq {condition : Condition} {joiner : Joiner}
    (joined : condition.operator = some joiner.word) : condition.joiner = joiner := by
  rw [Condition.joiner, joined, Option.bind_some, ofWord?_word, Option.getD_some]

/-- A condition that names a column by its own name, if it names one, and is joined by a joining
keyword. -/
structure Condition.IsCanonical (condition : Condition) : Prop where
  named : ∀ name ∈ condition.column, ∃ column : Column, name = column.name.toList
  joined : condition.IsJoined

theorem Condition.IsCanonical.isProper {condition : Condition} (canonical : condition.IsCanonical) :
    condition.IsProper where
  named name given := by
    obtain ⟨column, rfl⟩ := canonical.named name given
    rw [ofName?_name]
    rfl
  joined := by
    obtain ⟨joiner, same⟩ := canonical.joined
    rw [same, Option.bind_some, ofWord?_word]
    rfl

theorem isCanonical_of_mem_conditionsAfter {pending : Joiner} {parts : List Part}
    {condition : Condition} (member : condition ∈ conditionsAfter pending parts) :
    condition.IsCanonical := by
  induction parts generalizing pending with
  | nil => cases member
  | cons part rest ih =>
      cases part with
      | nothing => exact ih member
      | unknown name => exact ih member
      | joiner joiner => exact ih member
      | named column term =>
          rcases List.mem_cons.mp member with rfl | later
          · refine ⟨?_, pending, rfl⟩
            rintro name ⟨⟩
            exact ⟨column, rfl⟩
          · exact ih later
      | free term =>
          rcases List.mem_cons.mp member with rfl | later
          · refine ⟨?_, pending, rfl⟩
            rintro name ⟨⟩
          · exact ih later

/-- All conditions of a search text are canonical. -/
theorem isCanonical_of_mem_compile {text : List Char} {condition : Condition}
    (member : condition ∈ (compile text).conditions) : condition.IsCanonical := by
  rw [compile] at member
  split at member
  · cases member
  · split at member
    · exact isCanonical_of_mem_conditionsAfter member
    · cases member

/-- All conditions of a search text are proper. -/
theorem isProper_of_mem_compile {text : List Char} {condition : Condition}
    (member : condition ∈ (compile text).conditions) : condition.IsProper :=
  (isCanonical_of_mem_compile member).isProper

end AuditTrail.Query
