import AuditTrail.Record
/-!
The answer to a search: one page of records with the total, and how many pages there are.
-/

namespace AuditTrail.Search

/-- The answer to a search. -/
structure Response where
  /-- The records of the page. -/
  hits : List Row
  /-- The number of matching records. -/
  total : Int
  /-- The number of the page. -/
  page : Int
  /-- The size of a page. -/
  size : Int
  /-- The time that the search took, in milliseconds. -/
  took : Int

namespace Response

/-- The quotient of two whole numbers as a double-precision number. -/
def quotient (num den : Int) : Binary64 :=
  Binary64.ofIntRatio (if den < 0 then -num else num) den.natAbs

/-- The number of pages: the quotient of total and size rounded up; no pages of size zero. -/
def totalPages (total size : Int) : Except Fault Int :=
  if size = 0 then .ok 0
  else match (quotient total size).ceil? with
    | some n => .ok n
    | none => .error (.unconvertible .tooLarge)

/-- Whether records follow after the page. -/
def hasMore (r : Response) : Bool := (r.page - 1) * r.size + r.hits.length < r.total

/-- The answer as named values. -/
def value (r : Response) : Except Fault Value := do
  let pages ← totalPages r.total r.size
  pure (.map [("total", .int r.total), ("from", .int r.page), ("size", .int r.size),
    ("hits", .list (r.hits.map Value.map)), ("took", .int r.took), ("hasMore", .bool r.hasMore),
    ("totalPages", .int pages)])

end Response

/-- The milliseconds between two readings of a clock that counts seconds. -/
def elapsedMilliseconds (started now : Binary64) : Except Fault Int :=
  match (Value.float ((now.sub started).mul (Binary64.ofInt 1000))).toInt with
  | .ok n => .ok n
  | .error cause => .error (.unconvertible cause)

end AuditTrail.Search
