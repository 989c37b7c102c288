import AuditTrail.Query.Condition
import AuditTrail.Query.TsQuery
/-!
Search texts made ready to run: conditions on columns if a column is named anywhere, else a text
search expression.
-/

namespace AuditTrail.Query

open Text

/-- A search text made ready. -/
structure Compiled where
  /-- Set when a column is named. -/
  isColumnSpecific : Bool
  /-- The text search expression; empty when a column is named. -/
  fullText : List Char
  /-- The conditions; none when no column is named. -/
  conditions : List Condition
deriving DecidableEq, Repr

/-- A search for nothing. -/
def Compiled.empty : Compiled := ⟨false, [], []⟩

/-- Makes a search text ready. -/
def compile (text : List Char) : Compiled :=
  let body := trim text
  if body.isEmpty then Compiled.empty
  else if Query.isColumnSpecific body then ⟨true, [], Query.conditions (tokenize body)⟩
  else ⟨false, Query.fullText (tokenize body), []⟩

/-- The names of unknown columns that making a search text ready passes over. -/
def ignoredColumns (text : List Char) : List (List Char) :=
  let body := trim text
  if Query.isColumnSpecific body then unknownColumns (tokenize body) else []

end AuditTrail.Query
