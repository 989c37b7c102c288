import AuditTrail.Text.Case
/-!
The columns of the audit log, and which of them a search may name, match or sort by.
-/

namespace AuditTrail

open Text

/-- A column of the audit log that holds a record's data. -/
inductive Column where
  | id
  | timestamp
  | userId
  | userName
  | action
  | resourceType
  | resourceId
  | ipAddress
  | status
  | details
  | metadata
  | createdAt
deriving DecidableEq, Repr

namespace Column

/-- All columns, in the order in which records show them. -/
def all : List Column :=
  [id, timestamp, userId, userName, action, resourceType, resourceId, ipAddress, status, details,
    metadata, createdAt]

/-- The name of a column. -/
def name : Column → String
  | id => "id"
  | timestamp => "timestamp"
  | userId => "user_id"
  | userName => "user_name"
  | action => "action"
  | resourceType => "resource_type"
  | resourceId => "resource_id"
  | ipAddress => "ip_address"
  | status => "status"
  | details => "details"
  | metadata => "metadata"
  | createdAt => "created_at"

/-- Every column is listed. -/
theorem mem_all (column : Column) : column ∈ all := by cases column <;> decide

/-- The column with exactly this name. -/
def ofExactName? (text : List Char) : Option Column :=
  all.find? fun column => column.name.toList == text

/-- The column that a name in any letter case stands for. -/
def ofName? (text : List Char) : Option Column := ofExactName? (lower text)

theorem name_of_ofExactName? {text : List Char} {column : Column}
    (h : ofExactName? text = some column) : column.name.toList = text := by
  have := List.find?_some h
  simpa using this

/-- The names of all columns in ascending order. -/
def sortedNames : List String := (all.map name).mergeSort fun a b => !decide (b < a)

/-- The columns that a term without a column is matched against. -/
def freeText : List Column :=
  [userId, userName, action, resourceType, resourceId, ipAddress, status, details]

/-- The columns that results may be sorted by. -/
def sortable : List Column :=
  [timestamp, userId, userName, action, resourceType, status, createdAt]

/-- The column that a sort key stands for; any other key sorts by time. -/
def ofSortKey (key : List Char) : Column :=
  (sortable.find? fun column => column.name.toList == key).getD timestamp

end Column

end AuditTrail
