import AuditTrail.Http.Endpoint
import AuditTrail.Http.Parameters
import AuditTrail.Search.Response
/-!
What the endpoints answer. A failure of a search or look-up is logged and answered by a general
message, so that the caller learns nothing about its cause.
-/

namespace AuditTrail.Http

open Text Service Action

/-- What clocks and calendars say while a request is handled. -/
structure Clock where
  /-- How dates in free form are read on the current day. -/
  freeForm : FreeForm
  /-- The current time. -/
  now : Moment
  /-- The reading of the stopwatch before the store is asked. -/
  started : Binary64
  /-- The reading of the stopwatch after the store has answered. -/
  finished : Binary64

/-- What an endpoint answers. -/
inductive Outcome where
  /-- A status and a value. -/
  | answered (status : Nat) (body : Value)
  /-- A refusal. -/
  | rejected (rejection : Rejection)

namespace Outcome

/-- A message about a failure. -/
def failed (status : Nat) (message : String) : Outcome :=
  answered status (.map [("ok", .bool false), ("error", .text message)])

end Outcome

/-- The zone of dates that name none: the application's, else that of the file. -/
def dateZone : Action Zone := do
  match ← applicationSetting "TZ" with
  | .null => pure (.region (← region .dates .null))
  | setting => pure (Zone.ofSetting (← get).files.regions setting)

/-- The page size of listings that name none: the application's, else that of the file. -/
def listingSize : Action Int := do
  match ← applicationSetting "DEFAULT_PAGE_SIZE" with
  | .int n => if n = 0 then pure ((← pageSize .listing .null : Nat) : Int) else pure n
  | _ => pure ((← pageSize .listing .null : Nat) : Int)

/-- Goes on with parameters that can be read. -/
def withParameters {α : Type} (parameters : Except Refusal α) (work : α → Action Outcome) :
    Action Outcome :=
  match parameters with
  | .ok a => work a
  | .error (.complaint complaint) => pure (.rejected (.unacceptable complaint))
  | .error (.fault fault) => throw fault

/-- The line that reports a search. -/
def searchMessage (parameters : SearchParameters) (total took : Int) : List Char :=
  "Search executed: query=".toList ++ quoted parameters.query.toList ++ " total=".toList ++
    integerText total ++ " from=".toList ++ integerText parameters.page.page ++
    " size=".toList ++ integerText parameters.page.size ++ " took=".toList ++
    integerText took ++ "ms".toList

/-- Answers with a page of records. -/
def answerPage (request : PageRequest) (page : Page) (took : Int) : Action Outcome := do
  let response : Search.Response := ⟨page.hits, page.total, request.page, request.size, took⟩
  pure (.answered 200 (← ofExcept response.value))

/-- Runs a search. -/
def runSearch (clock : Clock) (parameters : SearchParameters) : Action Outcome := do
  match ← attempt (search false (some parameters.query) parameters.page) with
  | .error fault =>
    logFault .error .search ("search_api: error executing search query=".toList ++
      quoted parameters.query.toList) fault
    pure (.failed 500 "An error occurred while searching")
  | .ok page =>
    let took ← ofExcept (Search.elapsedMilliseconds clock.started clock.finished)
    log .info .search (searchMessage parameters page.total took)
    answerPage parameters.page page took

/-- Answers a search. -/
def handleSearch (clock : Clock) (request : Request) : Action Outcome := do
  let body ← ofExcept (match request.json? with
    | .ok body => Except.ok body
    | .error trouble => Except.error (Fault.json trouble))
  let zone ← dateZone
  withParameters (SearchParameters.read clock.freeForm zone body) (runSearch clock)

/-- Runs a listing. -/
def runListing (clock : Clock) (request : PageRequest) : Action Outcome := do
  match ← attempt (list false request) with
  | .error fault =>
    logFault .error .search "list_api: error retrieving audit logs".toList fault
    pure (.failed 500 "An error occurred while retrieving audit logs")
  | .ok page =>
    answerPage request page
      (← ofExcept (Search.elapsedMilliseconds clock.started clock.finished))

/-- Answers a listing. -/
def handleList (clock : Clock) (request : Request) : Action Outcome := do
  let size ← listingSize
  let zone ← dateZone
  withParameters (readListing clock.freeForm zone size request.target) (runListing clock)

/-- Answers with one record. -/
def handleRecord (id : Int) : Action Outcome := do
  match ← attempt (record? false (.int id)) with
  | .error fault =>
    logFault .error .search
      ("get_api: error retrieving audit log ".toList ++ integerText id) fault
    pure (.failed 500 "An error occurred while retrieving audit log")
  | .ok none => pure (.rejected (.noSuchRecord id))
  | .ok (some record) => pure (.answered 200 (.map record))

/-- Answers that the service runs. -/
def handleLiveness (clock : Clock) : Action Outcome := do
  let now ← ofExcept (clock.now.normalize .utc)
  pure (.answered 200 (.map [("status", .text "healthy"),
    ("timestamp", .text (String.ofList now.zuluText))]))

/-- Answers whether the store can be reached. -/
def handleReachability : Action Outcome := do
  if ← ping then pure (.answered 200 (.map [("ok", .bool true)]))
  else pure (.failed 503 "database unreachable")

/-- What an endpoint answers to a request. -/
def handle (clock : Clock) (request : Request) : Endpoint → Action Outcome
  | .search => handleSearch clock request
  | .list => handleList clock request
  | .record (some id) => handleRecord id
  | .record none => pure (.rejected .noSuchPath)
  | .liveness => handleLiveness clock
  | .reachability => handleReachability
  | .asset => pure (.rejected .noSuchPath)

end AuditTrail.Http
