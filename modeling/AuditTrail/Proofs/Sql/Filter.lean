import AuditTrail.Proofs.Fault
import AuditTrail.Proofs.Query.Condition
import AuditTrail.Sql.Where

/-!
# How filters are made

A filter is made condition by condition.  It can be made whenever all columns that are named exist
and all operators behind the first condition join.
-/

namespace AuditTrail.Sql

open Text Query

/-- What the operand of a condition can be. -/
theorem operand_cases {index : Nat} {condition : Condition} {made : Operand} {bindings : Bindings}
    (built : operand index condition = .ok (made, bindings)) :
    (condition.column = none ∧
      made = .anyOf (Column.freeText.map fun column => ⟨column, .ilike, parameterName index⟩) ∧
      bindings = [bindText (parameterName index) (containsPattern condition.term)]) ∨
    (∃ name, condition.column = some name ∧ Column.ofName? name = some .id ∧
      made = .anyOf [⟨.id, .equal, parameterName index⟩, ⟨.id, .like, patternName index⟩] ∧
      bindings = [bindText (parameterName index) condition.term,
        bindText (patternName index) (containsPattern condition.term)]) ∨
    ∃ name column, condition.column = some name ∧ Column.ofName? name = some column ∧
      column ≠ .id ∧ made = .single ⟨column, .ilike, parameterName index⟩ ∧
      bindings = [bindText (parameterName index) (containsPattern condition.term)] := by
  obtain ⟨named, term, operator⟩ := condition
  cases named with
  | none =>
      obtain ⟨rfl, rfl⟩ := Prod.mk.inj (Except.ok.inj built)
      exact .inl ⟨rfl, rfl, rfl⟩
  | some name =>
      obtain ⟨column, canonical, built⟩ := ok_of_bind built
      have found : Column.ofName? name = some column := by
        rw [canonicalColumn] at canonical
        split at canonical
        · next other found => rw [found, Except.ok.inj canonical]
        · cases canonical
      cases column
      case id =>
        obtain ⟨rfl, rfl⟩ := Prod.mk.inj (Except.ok.inj built)
        exact .inr <| .inl ⟨name, rfl, found, rfl, rfl⟩
      all_goals
        obtain ⟨rfl, rfl⟩ := Prod.mk.inj (Except.ok.inj built)
        exact .inr <| .inr ⟨name, _, rfl, found, by decide, rfl, rfl⟩

theorem operand_ok (index : Nat) {condition : Condition}
    (named : ∀ name ∈ condition.column, (Column.ofName? name).isSome) :
    ∃ made own, operand index condition = .ok (made, own) := by
  obtain ⟨column, term, operator⟩ := condition
  cases column with
  | none => exact ⟨_, _, rfl⟩
  | some name =>
      obtain ⟨column, found⟩ := Option.isSome_iff_exists.mp (named name rfl)
      have canonical : canonicalColumn name = .ok column := by rw [canonicalColumn, found]
      cases column <;> exact ⟨_, _, bind_of_ok canonical rfl⟩

theorem joiner_of_joinerOf {condition : Condition} {joiner : Joiner}
    (joined : joinerOf condition = .ok joiner) : condition.joiner = joiner := by
  rw [joinerOf] at joined
  split at joined
  · next found word =>
      rw [Condition.joiner, word, Option.getD_some]
      exact Except.ok.inj joined
  · cases joined

/-- The steps that make the operands behind the first. -/
theorem following_cons {index : Nat} {condition : Condition} {rest : List Condition}
    {operands : List (Joiner × Operand)} {bindings : Bindings}
    (built : following index (condition :: rest) = .ok (operands, bindings)) :
    ∃ made own joiner later more, operand index condition = .ok (made, own) ∧
      joinerOf condition = .ok joiner ∧ following (index + 1) rest = .ok (later, more) ∧
      operands = (joiner, made) :: later ∧ bindings = own ++ more := by
  obtain ⟨⟨made, own⟩, first, built⟩ := ok_of_bind built
  obtain ⟨joiner, joined, built⟩ := ok_of_bind built
  obtain ⟨⟨later, more⟩, last, built⟩ := ok_of_bind built
  obtain ⟨rfl, rfl⟩ := Prod.mk.inj (Except.ok.inj built)
  exact ⟨made, own, joiner, later, more, first, joined, last, rfl, rfl⟩

theorem following_ok (index : Nat) {conditions : List Condition}
    (named : ∀ condition ∈ conditions, ∀ name ∈ condition.column, (Column.ofName? name).isSome)
    (joined : ∀ condition ∈ conditions, (condition.operator.bind Joiner.ofWord?).isSome) :
    ∃ operands own, following index conditions = .ok (operands, own) := by
  induction conditions generalizing index with
  | nil => exact ⟨[], [], rfl⟩
  | cons condition rest ih =>
      obtain ⟨made, own, leading⟩ := operand_ok index (named condition (by simp))
      obtain ⟨joiner, word⟩ := Option.isSome_iff_exists.mp (joined condition (by simp))
      have step : joinerOf condition = .ok joiner := by rw [joinerOf, word]
      obtain ⟨later, more, last⟩ := ih (index + 1)
        (fun other member => named other (by simp [member]))
        fun other member => joined other (by simp [member])
      exact ⟨_, _, bind_of_ok leading <| bind_of_ok step <| bind_of_ok last rfl⟩

/-- The steps that make a filter. -/
theorem filterOf_cons {condition : Condition} {rest : List Condition} {filter : Option Filter}
    {bindings : Bindings} (built : filterOf (condition :: rest) = .ok (filter, bindings)) :
    ∃ first own later more, operand 0 condition = .ok (first, own) ∧
      following 1 rest = .ok (later, more) ∧ filter = some ⟨first, later⟩ ∧
      bindings = own ++ more := by
  obtain ⟨⟨first, own⟩, leading, built⟩ := ok_of_bind built
  obtain ⟨⟨later, more⟩, last, built⟩ := ok_of_bind built
  obtain ⟨rfl, rfl⟩ := Prod.mk.inj (Except.ok.inj built)
  exact ⟨first, own, later, more, leading, last, rfl, rfl⟩

/-- Conditions on columns of the audit log that are joined by AND and OR make a filter. -/
theorem filterOf_ok {condition : Condition} {rest : List Condition}
    (named : ∀ other ∈ condition :: rest, ∀ name ∈ other.column, (Column.ofName? name).isSome)
    (joined : ∀ other ∈ rest, (other.operator.bind Joiner.ofWord?).isSome) :
    ∃ filter own, filterOf (condition :: rest) = .ok (some filter, own) := by
  obtain ⟨made, own, leading⟩ := operand_ok 0 (named condition (by simp))
  obtain ⟨later, more, last⟩ :=
    following_ok 1 (fun other member => named other (by simp [member])) joined
  exact ⟨⟨made, later⟩, own ++ more, bind_of_ok leading (bind_of_ok last rfl)⟩

end AuditTrail.Sql
