import AuditTrail.Schema.Table
/-!
The statements that make the table and its indexes, and the one that removes them.
-/

namespace AuditTrail.Schema

open Text

/-- A column as the statement that makes the table has it. -/
def Field.definition (field : Field) : List Char :=
  let start := field.name.toList ++ [' ']
  let obligation := if field.isRequired then " NOT NULL".toList else []
  match field.filling with
  | .written => start ++ field.storage.text ++ obligation
  | .counted => start ++ "BIGSERIAL".toList ++ obligation
  | .dated => start ++ field.storage.text ++ " DEFAULT now()".toList ++ obligation
  | .computed expression =>
    start ++ field.storage.text ++ " GENERATED ALWAYS AS (".toList ++ expression ++
      ") STORED".toList ++ obligation

/-- The columns that identify records. -/
def Table.keys (table : Table) : List (List Char) :=
  (table.fields.filter (·.isKey)).map fun field => field.name.toList

/-- The statement that makes a table. -/
def Table.definition (table : Table) : List Char :=
  let keys := "PRIMARY KEY (".toList ++ join ", ".toList table.keys ++ [')']
  "CREATE TABLE ".toList ++ tableName.toList ++ " ( ".toList ++
    join ", ".toList (table.fields.map Field.definition ++ [keys]) ++ " )".toList

/-- What an index orders by: a column, and the direction. -/
def Index.term (index : Index) : List Char :=
  index.field.toList ++ (if index.isDescending then " DESC".toList else [])

/-- The statement that makes an index. -/
def Index.definition (index : Index) : List Char :=
  let method := match index.method with
    | some method => " USING ".toList ++ method.toList
    | none => []
  "CREATE INDEX ".toList ++ index.name.toList ++ " ON ".toList ++ tableName.toList ++ method ++
    " (".toList ++ index.term ++ [')']

/-- The statements that make a table with its indexes. -/
def Table.definitions (table : Table) : List (List Char) :=
  table.definition :: table.indexes.map Index.definition

/-- The statement that removes the table. -/
def removal : List Char := "DROP TABLE ".toList ++ tableName.toList

end AuditTrail.Schema
