import AuditTrail.Schema.Table
import AuditTrail.Sql.Order
import AuditTrail.Sql.Where
/-!
The statements of the audit log: a selection with clauses that all have to hold, an order, and a
window of bound size.
-/

namespace AuditTrail.Sql

open Text

/-- A statement with its bindings. -/
structure Statement where
  /-- The text. -/
  text : List Char
  /-- The bindings. -/
  bindings : Bindings

/-- The table of audit logs. -/
def tableName : List Char := Schema.tableName.toList

/-- The column with the lexemes of a record. -/
def vectorColumn : List Char := Schema.vectorName.toList

/-- A text behind four blanks. -/
def indent (text : List Char) : List Char := "    ".toList ++ text

/-- The lines of the clauses. -/
def whereLines : List (List Char) → List (List Char)
  | [] => []
  | first :: rest =>
    "WHERE".toList :: indent first :: rest.map fun clause => indent ("AND ".toList ++ clause)

/-- The lines of the order. -/
def orderLines : List (List Char) → List (List Char)
  | [] => []
  | first :: rest =>
    "ORDER BY".toList :: indent first :: rest.map fun key => indent (", ".toList ++ key)

/-- The lines of a window. -/
def windowLines (paginated : Bool) : List (List Char) :=
  if paginated then ["LIMIT :limit".toList, "OFFSET :offset".toList] else []

/-- The text of a selection. -/
def selection (select : List Char) (clauses order : List (List Char)) (paginated : Bool) :
    List Char :=
  join ['\n'] (["SELECT".toList, indent select, "FROM ".toList ++ tableName] ++
    whereLines clauses ++ orderLines order ++ windowLines paginated)

/-- The names of all columns, as they are selected. -/
def selectColumns : List Char := join ", ".toList (Column.all.map (·.name.toList))

/-- The text search expression of a statement. -/
def tsQuery : List Char := "to_tsquery(CAST(:ts_config AS regconfig), :query)".toList

/-- How well a record matches. -/
def rankExpression : List Char :=
  "ts_rank(".toList ++ vectorColumn ++ ", ".toList ++ tsQuery ++ [')']

/-- The clause of a text search. -/
def matchClause : List Char := vectorColumn ++ " @@ ".toList ++ tsQuery

/-- What is selected: the columns, with the rank in a text search. -/
def selectRanked : List Char := selectColumns ++ ", ".toList ++ rankExpression ++ " AS rank".toList

/-- What a count selects. -/
def selectCount : List Char := "COUNT(*) AS total".toList

/-- The statement that counts what meets the clauses. -/
def countStatement (clauses : List (List Char)) (bindings : Bindings) : Statement :=
  ⟨selection selectCount clauses [] false, bindings⟩

/-- The statement that gives one page of what meets the clauses. -/
def pageStatement (select : List Char) (clauses : List (List Char)) (key : SortKey)
    (window : Window) (bindings : Bindings) : Statement :=
  ⟨selection select clauses [key.text] true,
    bindings ++ [("limit", .int window.limit), ("offset", .int window.offset)]⟩

/-- A line of the statement for one record, behind eight blanks. -/
def deepLine (text : String) : List Char := "\n        ".toList ++ text.toList

/-- The statement for one record. -/
def recordStatement (id : Int) : Statement :=
  ⟨deepLine "SELECT " ++ selectColumns ++ deepLine "FROM " ++ tableName ++
    deepLine "WHERE id = :log_id" ++ deepLine "LIMIT 1" ++ deepLine "", [("log_id", .int id)]⟩

end AuditTrail.Sql
