import AuditTrail.Column
import AuditTrail.Fault
import AuditTrail.Text.Blank
/-!
The order of results and the window of a page.
-/

namespace AuditTrail.Sql

open Text

/-- What results are sorted by. -/
inductive SortKey where
  /-- A column, in one direction. -/
  | column (column : Column) (descending : Bool)
  /-- How well a record matches, best first. -/
  | rank
deriving DecidableEq, Repr

/-- The text of a sort key. -/
def SortKey.text : SortKey → List Char
  | column c descending =>
    c.name.toList ++ (if descending then " DESC".toList else " ASC".toList)
  | rank => "rank DESC".toList

/-- The form in which a requested sort key is looked up. -/
def normalKey (key : String) : List Char := lower (trim key.toList)

/-- The column that a requested sort key stands for. -/
def sortColumn : Option String → Column
  | some key => Column.ofSortKey (normalKey key)
  | none => .timestamp

/-- The names for sorting by how well a record matches. -/
def rankKeys : List (List Char) := ["rank".toList, "relevance".toList]

/-- The sort key of a request. The direction does not apply to the rank. -/
def sortKey (key : Option String) (descending ranked : Bool) : SortKey :=
  if ranked && key.any (fun k => rankKeys.contains (normalKey k)) then .rank
  else .column (sortColumn key) descending

/-- A window of results. -/
structure Window where
  /-- The greatest number of results. -/
  limit : Nat
  /-- The number of results before the window. -/
  offset : Nat
deriving DecidableEq, Repr

/-- The window of a page; pages are counted from one. -/
def window (page size : Int) : Except Fault Window :=
  if page < 1 then .error (.pageBelowOne page)
  else if size < Fault.minPageSize ∨ Fault.maxPageSize < size then
    .error (.pageSizeOutOfRange size)
  else .ok ⟨size.toNat, ((page - 1) * size).toNat⟩

end AuditTrail.Sql
