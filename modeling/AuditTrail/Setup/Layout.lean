import AuditTrail.Schema.Table
/-!
The layout of the table as the store has it, and its description.
-/

namespace AuditTrail.Setup

open Text

/-- A column as the store has it. -/
structure ColumnLayout where
  /-- The name. -/
  name : List Char
  /-- The type. -/
  type : List Char
  /-- Whether records may lack a value in it. -/
  isNullable : Bool
deriving DecidableEq, Repr

/-- An index as the store has it. -/
structure IndexLayout where
  /-- The name. -/
  name : Option (List Char)
  /-- The columns; nothing in place of an expression. -/
  columns : List (Option (List Char))
deriving DecidableEq, Repr

/-- The table as the store has it. -/
structure Layout where
  /-- The columns. -/
  columns : List ColumnLayout
  /-- The indexes. -/
  indexes : List IndexLayout
deriving DecidableEq, Repr

/-- A text with spaces after it up to a width. -/
def leftAligned (width : Nat) (text : List Char) : List Char :=
  text ++ List.replicate (width - text.length) ' '

/-- The line of a column. -/
def ColumnLayout.line (column : ColumnLayout) : List Char :=
  "  ".toList ++ leftAligned 16 column.name ++ ' ' :: leftAligned 24 column.type ++ ' ' ::
    (if column.isNullable then "YES\n" else "NO\n").toList

/-- The line of an index. -/
def IndexLayout.line (index : IndexLayout) : List Char :=
  let columns := (index.columns.filterMap id).filter fun name => !name.isEmpty
  "  - ".toList ++ index.name.getD Value.null.display ++ ": ".toList ++
    join ", ".toList columns ++ ['\n']

/-- The description of the indexes, if there are any. -/
def indexLines (indexes : List IndexLayout) : List Char :=
  if indexes.isEmpty then [] else "\nindexes:\n".toList ++ indexes.flatMap IndexLayout.line

/-- The description of the table, or of its absence. -/
def describe (layout : Option Layout) : List Char :=
  let name := Schema.tableName.toList
  match layout with
  | none => name ++ ": missing\n".toList
  | some layout =>
    '\n' :: name ++ '\n' :: List.replicate name.length '-' ++ '\n' ::
      layout.columns.flatMap ColumnLayout.line ++ indexLines layout.indexes

end AuditTrail.Setup
