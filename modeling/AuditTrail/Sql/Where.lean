import AuditTrail.Calendar.Moment
import AuditTrail.Fault
import AuditTrail.Query.Condition
/-!
Filters: conditions as comparisons of columns with bound parameters, joined in parentheses, and
bounds on the time of a record. The text of a filter holds names only; all values are bound.
-/

namespace AuditTrail.Sql

open Text Query

/-- Named values bound to a statement. -/
abbrev Bindings := List (String × Value)

/-- How a column's text is compared with a parameter. -/
inductive Comparator where
  | equal
  | like
  /-- Like, letter case ignored. -/
  | ilike
deriving DecidableEq, Repr

/-- The text of a comparator. -/
def Comparator.text : Comparator → List Char
  | equal => ['=']
  | like => ['L', 'I', 'K', 'E']
  | ilike => ['I', 'L', 'I', 'K', 'E']

/-- A comparison of a column's text with a parameter. -/
structure Comparison where
  /-- The column. -/
  column : Column
  /-- The comparator. -/
  comparator : Comparator
  /-- The name of the parameter. -/
  parameter : List Char
deriving DecidableEq, Repr

/-- The text of a comparison. -/
def Comparison.text (c : Comparison) : List Char :=
  c.column.name.toList ++ "::text ".toList ++ c.comparator.text ++ ' ' :: ':' :: c.parameter

/-- One operand of a filter. -/
inductive Operand where
  /-- A comparison. -/
  | single (comparison : Comparison)
  /-- Comparisons of which one has to hold. -/
  | anyOf (comparisons : List Comparison)
deriving DecidableEq, Repr

/-- The text of an operand; alternatives stand in parentheses. -/
def Operand.text : Operand → List Char
  | single comparison => comparison.text
  | anyOf comparisons =>
    '(' :: join " OR ".toList (comparisons.map Comparison.text) ++ [')']

/-- The name of the parameter of the condition at an index. -/
def parameterName (index : Nat) : List Char := 'p' :: Nat.toDigits 10 index

/-- The name of the pattern parameter of a condition that has two. -/
def patternName (index : Nat) : List Char := parameterName index ++ "_like".toList

/-- The pattern that matches a text anywhere. -/
def containsPattern (term : List Char) : List Char := '%' :: term ++ ['%']

/-- A binding of a text. -/
def bindText (name value : List Char) : String × Value :=
  (String.ofList name, .text (String.ofList value))

/-- The column of a condition that names one. -/
def canonicalColumn (name : List Char) : Except Fault Column :=
  match Column.ofName? name with
  | some column => .ok column
  | none => .error (.columnNotSearchable (String.ofList name))

/-- The operand of a condition and its bindings. A number is looked up exactly, with its text as a
fallback. -/
def operand (index : Nat) (condition : Condition) : Except Fault (Operand × Bindings) :=
  let name := parameterName index
  let pattern := containsPattern condition.term
  match condition.column with
  | none =>
    .ok (.anyOf (Column.freeText.map fun column => ⟨column, .ilike, name⟩),
      [bindText name pattern])
  | some column => do
    match ← canonicalColumn column with
    | .id =>
      pure (.anyOf [⟨.id, .equal, name⟩, ⟨.id, .like, patternName index⟩],
        [bindText name condition.term, bindText (patternName index) pattern])
    | column => pure (.single ⟨column, .ilike, name⟩, [bindText name pattern])

/-- The joiner of a condition. -/
def joinerOf (condition : Condition) : Except Fault Joiner :=
  match condition.operator.bind Joiner.ofWord? with
  | some joiner => .ok joiner
  | none => .error (.unsupportedJoin (condition.operator.map String.ofList))

/-- The operands of the conditions after the first, each with its joiner, and their bindings. -/
def following : Nat → List Condition → Except Fault (List (Joiner × Operand) × Bindings)
  | _, [] => .ok ([], [])
  | index, condition :: rest => do
    let (operand, bindings) ← operand index condition
    let joiner ← joinerOf condition
    let (operands, more) ← following (index + 1) rest
    pure ((joiner, operand) :: operands, bindings ++ more)

/-- Joined operands. -/
structure Filter where
  /-- The first operand. -/
  first : Operand
  /-- The other operands, each with its joiner. -/
  rest : List (Joiner × Operand)
deriving DecidableEq, Repr

/-- The text of a filter, in parentheses. -/
def Filter.text (filter : Filter) : List Char :=
  '(' :: filter.first.text ++
    filter.rest.flatMap (fun (joiner, operand) => ' ' :: joiner.word ++ ' ' :: operand.text) ++
    [')']

/-- The filter of some conditions and its bindings; no conditions make no filter. -/
def filterOf : List Condition → Except Fault (Option Filter × Bindings)
  | [] => .ok (none, [])
  | condition :: rest => do
    let (first, bindings) ← operand 0 condition
    let (operands, more) ← following 1 rest
    pure (some ⟨first, operands⟩, bindings ++ more)

/-- Bounds on the time of a record, both inclusive. -/
structure DateRange where
  /-- The earliest time. -/
  first : Option Moment
  /-- The latest time. -/
  last : Option Moment

namespace DateRange

/-- The clause for the bounds that are given. -/
def clause? (range : DateRange) : Option (List Char) :=
  match range.first, range.last with
  | some _, some _ => some "timestamp BETWEEN :from_date AND :to_date".toList
  | some _, none => some "timestamp >= :from_date".toList
  | none, some _ => some "timestamp <= :to_date".toList
  | none, none => none

/-- The bindings of the bounds that are given. -/
def bindings (range : DateRange) : Bindings :=
  (range.first.map fun m => ("from_date", Value.moment m)).toList ++
    (range.last.map fun m => ("to_date", Value.moment m)).toList

end DateRange

end AuditTrail.Sql
