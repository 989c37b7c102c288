import AuditTrail.Column
import AuditTrail.Fault
import AuditTrail.Json.Encoding
/-!
Records of the audit log as callers see them: every column in order, times as standard text, and
the rank of a text search where there is one. Metadata is read in the room that there is for nested
lists and maps.
-/

namespace AuditTrail

open Text

/-- A row of the store, or a record: named values in order. -/
abbrev Row := List (String × Value)

namespace Row

/-- The value of a column; null where the row has none. -/
def get (row : Row) (name : String) : Value := (row.lookup name).getD .null

/-- Metadata in raw bytes is read as JSON, or as text where it is none. -/
def decodeMetadata (room : Nat) : Value → Except Fault Value
  | .bytes _ data =>
    match Json.readBytes room data with
    | .ok value => .ok value
    | .error .tooDeep => .error (.json .tooDeep)
    | .error _ => .ok (.text (String.ofList (Utf8.decodeReplacing data)))
  | value => .ok value

/-- A value as a record shows it. -/
def shown (room : Nat) (column : Column) (value : Value) : Except Fault Value :=
  match value with
  | .moment m => .ok (.text (String.ofList m.zuluText))
  | .null => .ok .null
  | value =>
    match column with
    | .ipAddress => .ok (.text (String.ofList value.display))
    | .metadata => decodeMetadata room value
    | _ => .ok value

/-- The columns of a record. -/
def shownColumns (room : Nat) (row : Row) : List Column → Except Fault Row
  | [] => .ok []
  | column :: rest => do
    let value ← shown room column (row.get column.name)
    let more ← shownColumns room row rest
    pure ((column.name, value) :: more)

/-- The rank of a record, where the row has one. -/
def shownRank (row : Row) : Except Fault Row :=
  match row.get "rank" with
  | .null => .ok []
  | value =>
    match value.toBinary64 with
    | .ok x => .ok [("rank", .float x)]
    | .error cause => .error (.unconvertible cause)

/-- The record of a row. -/
def record (room : Nat) (row : Row) : Except Fault Row := do
  let columns ← shownColumns room row Column.all
  let rank ← shownRank row
  pure (columns ++ rank)

/-- The records of some rows. -/
def records (room : Nat) : List Row → Except Fault (List Row)
  | [] => .ok []
  | row :: rest => do
    let first ← record room row
    let more ← records room rest
    pure (first :: more)

end Row

end AuditTrail
