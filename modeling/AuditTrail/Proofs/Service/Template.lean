import AuditTrail.Proofs.Service.Search
import AuditTrail.Proofs.Sql.Parameter

/-!
# The texts of a search's statements

The text of a statement is made from a template that has no room for text: columns and joiners of
the conditions, which bounds are given, and the sort key.  Everything a caller spells goes into the
bindings.
-/

namespace AuditTrail.Sql

/-- Whether results may be sorted by a key. -/
def SortKey.IsAllowed : SortKey → Prop
  | .column sorted _ => sorted ∈ Column.sortable
  | .rank => True

end AuditTrail.Sql

namespace AuditTrail.Service

open Text Query Sql

/-- What is left of a condition in the text of a statement. -/
structure Slot where
  /-- How it is joined to the one before it. -/
  joiner : Joiner
  /-- The column, if one is named. -/
  column : Option Column
deriving DecidableEq, Repr

/-- What a statement filters by. -/
inductive Shape where
  | everything
  | columns (first : Option Column) (rest : List Slot)
  | fullText
deriving DecidableEq, Repr

/-- A template of the statements of a search. -/
structure Template where
  /-- What is filtered by. -/
  shape : Shape
  /-- Whether the earliest time is bound. -/
  hasFirst : Bool
  /-- Whether the latest time is bound. -/
  hasLast : Bool
  /-- The sort key. -/
  key : SortKey
  allowed : key.IsAllowed

namespace Template

/-- The operand of a condition at an index. -/
def operand (index : Nat) : Option Column → Operand
  | none => .anyOf (Column.freeText.map fun column => ⟨column, .ilike, parameterName index⟩)
  | some .id => .anyOf [⟨.id, .equal, parameterName index⟩, ⟨.id, .like, patternName index⟩]
  | some column => .single ⟨column, .ilike, parameterName index⟩

/-- The operands of the conditions from an index on. -/
def operands : Nat → List Slot → List (Joiner × Operand)
  | _, [] => []
  | index, slot :: rest => (slot.joiner, operand index slot.column) :: operands (index + 1) rest

/-- The clause for the bounds that are given. -/
def bounds : Bool → Bool → List (List Char)
  | true, true => ["timestamp BETWEEN :from_date AND :to_date".toList]
  | true, false => ["timestamp >= :from_date".toList]
  | false, true => ["timestamp <= :to_date".toList]
  | false, false => []

variable (template : Template)

/-- The clauses. -/
def clauses : List (List Char) :=
  let bounds := bounds template.hasFirst template.hasLast
  match template.shape with
  | .everything => bounds
  | .columns first rest => (Sql.Filter.mk (operand 0 first) (operands 1 rest)).text :: bounds
  | .fullText => matchClause :: bounds

/-- What is selected from the rows of a page. -/
def select : List Char :=
  match template.shape with
  | .fullText => selectRanked
  | _ => selectColumns

end Template

/-- What is left of a condition. -/
def slot (condition : Condition) : Slot where
  joiner := condition.joiner
  column := condition.column.bind Column.ofName?

/-- Two strategies of one kind, with the same columns and operators in their conditions.  The
first operator and the terms may differ. -/
def Strategy.Alike : Strategy → Strategy → Prop
  | .listing, .listing => True
  | .columns one, .columns other =>
    one.map Condition.column = other.map Condition.column ∧
      one.tail.map Condition.operator = other.tail.map Condition.operator
  | .fullText _, .fullText _ => True
  | .nothing, .nothing => True
  | _, _ => False

/-- A service whose store answers everything with nothing. -/
def silent : State :=
  .initial [] (.absent []) fun _ _ => .ok ⟨.null, [], 0⟩

end AuditTrail.Service
