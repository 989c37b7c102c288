import AuditTrail.Query.Compiled
import AuditTrail.Service.Connection
import AuditTrail.Service.Settings
/-!
Searches, listings and single records. A search counts what matches and then fetches one page of
it; both statements have the same clauses.
-/

namespace AuditTrail.Service

open Text Query Sql

/-- What a caller asks for beside the search text. -/
structure PageRequest where
  /-- The number of the page, from one. -/
  page : Int
  /-- The size of a page. -/
  size : Int
  /-- The bounds on the time of a record. -/
  range : DateRange
  /-- The requested sort key. -/
  sort : Option String
  /-- Whether results are sorted in descending order. -/
  descending : Bool

/-- One page of records, and the number of all matching ones. -/
structure Page where
  /-- The records. -/
  hits : List Row
  /-- The number of matching records. -/
  total : Int

/-- The ways in which a search can run. -/
inductive Strategy where
  /-- Everything, newest first. -/
  | listing
  /-- A filter on columns. -/
  | columns (conditions : List Condition)
  /-- A text search. -/
  | fullText (expression : List Char)
  /-- Nothing can match. -/
  | nothing
deriving DecidableEq, Repr

/-- Whether a search text is missing or blank. -/
def isBlankQuery (query : Option String) : Bool := query.all fun q => (trim q.toList).isEmpty

/-- The way in which a compiled search runs. -/
def Strategy.ofCompiled (compiled : Compiled) : Strategy :=
  if compiled.isColumnSpecific && !compiled.conditions.isEmpty then .columns compiled.conditions
  else if compiled.fullText.isEmpty then .nothing
  else .fullText compiled.fullText

/-- The way in which a search runs. -/
def Strategy.ofQuery (query : Option String) : Strategy :=
  if isBlankQuery query then .listing
  else .ofCompiled (compile (query.getD "").toList)

namespace Action

/-- The count that the store answers; what counts as absent is zero. -/
def countOf (scalar : Value) : Except Fault Int :=
  if scalar.isFalsy then .ok 0
  else match scalar.toInt with
    | .ok n => .ok n
    | .error cause => .error (.unconvertible cause)

/-- Counts what meets the clauses and fetches one page of it. -/
def countAndFetch (handle : Handle) (select : List Char) (clauses : List (List Char))
    (bindings : Bindings) (key : SortKey) (window : Window) : Action Page := do
  let count ← execute handle (countStatement clauses bindings)
  let page ← execute handle (pageStatement select clauses key window bindings)
  let hits ← ofExcept (Row.records page.room page.rows)
  let total ← ofExcept (countOf count.scalar)
  pure ⟨hits, total⟩

/-- A page of everything, newest first. -/
def listIn (handle : Handle) (request : PageRequest) : Action Page := do
  let window ← ofExcept (Sql.window request.page request.size)
  countAndFetch handle selectColumns request.range.clause?.toList request.range.bindings
    (.column .timestamp true) window

/-- A page of what meets some conditions. -/
def searchColumns (handle : Handle) (conditions : List Condition) (request : PageRequest) :
    Action Page := do
  let (filter, bindings) ← ofExcept (filterOf conditions)
  let window ← ofExcept (Sql.window request.page request.size)
  countAndFetch handle selectColumns
    ((filter.map Filter.text).toList ++ request.range.clause?.toList)
    (bindings ++ request.range.bindings) (sortKey request.sort request.descending false) window

/-- A page of what a text search finds. -/
def searchText (handle : Handle) (expression : List Char) (request : PageRequest) :
    Action Page := do
  let configuration ← activeSearchConfiguration
  let window ← ofExcept (Sql.window request.page request.size)
  countAndFetch handle selectRanked (matchClause :: request.range.clause?.toList)
    (("query", .text (String.ofList expression)) :: ("ts_config", .text configuration) ::
      request.range.bindings)
    (sortKey request.sort request.descending true) window

/-- Work in a session that the caller gives, or else in one of the service. -/
def inSession {α : Type} (given : Bool) (work : Handle → Action α) : Action α :=
  if given then work .given else withSession work

/-- A page of everything, newest first. -/
def list (given : Bool) (request : PageRequest) : Action Page :=
  inSession given fun handle => listIn handle request

/-- Runs a search in a session. -/
def runStrategy (query : Option String) (request : PageRequest) (handle : Handle) :
    Strategy → Action Page
  | .listing => listIn handle request
  | .columns conditions => do
    log .debug .search ("search_audit_logs: column strategy with ".toList ++
      Nat.toDigits 10 conditions.length ++ " condition(s)".toList)
    searchColumns handle conditions request
  | .fullText expression => do
    log .debug .search
      ("search_audit_logs: full-text strategy tsquery=".toList ++ quoted expression)
    searchText handle expression request
  | .nothing => do
    log .info .search ("search_audit_logs: query ".toList ++ quoted (query.getD "").toList ++
      " has no searchable terms".toList)
    pure ⟨[], 0⟩

/-- Reports the terms that making a search text ready passes over. -/
def logIgnored (query : Option String) : Action Unit :=
  (ignoredColumns (query.getD "").toList).forM fun name =>
    log .debug .compiler ("Ignoring term for unknown column ".toList ++ quoted name)

/-- A page of what a search finds; a blank search text lists everything. -/
def search (given : Bool) (query : Option String) (request : PageRequest) : Action Page := do
  match Strategy.ofQuery query with
  | .listing =>
    log .debug .search "search_audit_logs: blank query -> unfiltered listing".toList
    list given request
  | strategy =>
    logIgnored query
    inSession given fun handle => runStrategy query request handle strategy

/-- The record with an identifier, if there is one. -/
def record? (given : Bool) (identifier : Value) : Action (Option Row) :=
  inSession given fun handle => do
    let id ← ofExcept (match identifier.toInt with
      | .ok n => Except.ok n
      | .error cause => Except.error (Fault.unconvertible cause))
    let answer ← execute handle (recordStatement id)
    match answer.rows with
    | row :: _ => some <$> ofExcept (row.record answer.room)
    | [] =>
      log .debug .records
        ("audit log ".toList ++ identifier.display ++ " not found".toList)
      pure none

end Action

end AuditTrail.Service
