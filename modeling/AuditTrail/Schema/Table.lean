import AuditTrail.Column
import AuditTrail.Fault
import AuditTrail.Text.Identifier
/-!
The layout of the audit log's table: its columns, the search vector that the store computes from
them, and its indexes. The search vector is made with a text search configuration whose name is an
identifier, so the name cannot end the literal that it stands in.
-/

namespace AuditTrail.Schema

open Text

/-- The name of the table. -/
def tableName : String := "audit_logs"

/-- The name of the search vector's column. -/
def vectorName : String := "search_vector"

/-- How the values of a column are stored. -/
inductive Storage where
  /-- Whole numbers of sixty-four bits. -/
  | number
  /-- Points in time. -/
  | moment
  /-- Texts of at most a number of characters. -/
  | shortText (limit : Nat)
  /-- Texts of any length. -/
  | longText
  /-- Network addresses. -/
  | address
  /-- JSON documents. -/
  | document
  /-- The words of a text search. -/
  | vector
deriving DecidableEq, Repr

/-- The name of a kind of storage. -/
def Storage.text : Storage → List Char
  | number => "BIGINT".toList
  | moment => "TIMESTAMP WITH TIME ZONE".toList
  | shortText limit => "VARCHAR(".toList ++ Nat.toDigits 10 limit ++ [')']
  | longText => "TEXT".toList
  | address => "INET".toList
  | document => "JSONB".toList
  | vector => "TSVECTOR".toList

/-- Where the values of a column come from. -/
inductive Filling where
  /-- From the writer of a record. -/
  | written
  /-- From a counter. -/
  | counted
  /-- From the clock, unless they are written. -/
  | dated
  /-- From the other columns, by an expression. -/
  | computed (expression : List Char)
deriving DecidableEq, Repr

/-- A column of the table. -/
structure Field where
  /-- The name. -/
  name : String
  /-- How its values are stored. -/
  storage : Storage
  /-- Whether every record has a value in it. -/
  isRequired : Bool
  /-- Whether its values identify records. -/
  isKey : Bool
  /-- Where its values come from. -/
  filling : Filling
deriving DecidableEq, Repr

/-- An index on a column. -/
structure Index where
  /-- The name. -/
  name : String
  /-- The method, where it is not the usual one. -/
  method : Option String
  /-- The column. -/
  field : String
  /-- Whether the order is descending. -/
  isDescending : Bool
deriving DecidableEq, Repr

/-- The table. -/
structure Table where
  /-- The columns in order. -/
  fields : List Field
  /-- The indexes in the order of their names. -/
  indexes : List Index
deriving DecidableEq, Repr

/-- How the values of a record's column are stored. -/
def storage : Column → Storage
  | .id => .number
  | .timestamp => .moment
  | .userId => .shortText 100
  | .userName => .shortText 255
  | .action => .shortText 100
  | .resourceType => .shortText 100
  | .resourceId => .shortText 255
  | .ipAddress => .address
  | .status => .shortText 50
  | .details => .longText
  | .metadata => .document
  | .createdAt => .moment

/-- The columns in which every record has a value. -/
def required : List Column :=
  [.id, .timestamp, .userId, .action, .resourceType, .status, .createdAt]

/-- Where the values of a record's column come from. -/
def filling : Column → Filling
  | .id => .counted
  | .createdAt => .dated
  | _ => .written

/-- The column of the table for a record's column. -/
def field (column : Column) : Field :=
  ⟨column.name, storage column, required.contains column, column == .id, filling column⟩

/-- A column as text; an empty text where a record has no value in it. -/
def vectorPart (column : Column) : List Char :=
  let source := match column with
    | .ipAddress => "host(ip_address)".toList
    | column => column.name.toList
  "COALESCE(".toList ++ source ++ ", '')".toList

/-- The text that searches look into. -/
def vectorSource : List Char := join " || ' ' || ".toList (Column.freeText.map vectorPart)

/-- The expression of the search vector under a text search configuration. -/
def vectorExpression (configuration : List Char) : List Char :=
  "to_tsvector('".toList ++ configuration ++ "', ".toList ++ vectorSource ++ [')']

/-- The expression of the search vector under what is given as text search configuration. -/
def searchVector (configuration : Value) : Except Fault (List Char) :=
  match configuration with
  | .text s =>
    if isIdentifier s.toList then .ok (vectorExpression s.toList)
    else .error (.invalidSearchConfiguration configuration)
  | _ => .error (.invalidSearchConfiguration configuration)

/-- The indexes of the table. -/
def indexes : List Index :=
  [⟨"ix_audit_logs_action", none, "action", false⟩,
    ⟨"ix_audit_logs_search_vector", some "gin", vectorName, false⟩,
    ⟨"ix_audit_logs_status", none, "status", false⟩,
    ⟨"ix_audit_logs_timestamp", none, "timestamp", true⟩,
    ⟨"ix_audit_logs_user_id", none, "user_id", false⟩]

/-- The table with an expression for the search vector. -/
def table (vector : List Char) : Table :=
  ⟨Column.all.map field ++ [⟨vectorName, .vector, false, false, .computed vector⟩], indexes⟩

end AuditTrail.Schema
