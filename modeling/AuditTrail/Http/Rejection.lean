import AuditTrail.Fault
import AuditTrail.Json.Printer
/-!
Requests that are refused: why, the status that says so, and the body that describes it.
-/

namespace AuditTrail.Http

open Text

/-- What is wrong with the parameters of a request. -/
inductive Complaint where
  /-- The body is no map. -/
  | bodyNotMap
  /-- There is no search text. -/
  | noQuery
  /-- A parameter is no whole number. -/
  | notInteger (parameter : String)
  /-- The number of the page is below one. -/
  | pageTooSmall
  /-- The size of a page is outside its range. -/
  | sizeOutOfRange
  /-- The sort key is no text. -/
  | sortNotText
  /-- The sort direction is no truth value. -/
  | directionNotBoolean
  /-- A parameter is no point in time. -/
  | notDate (parameter : String)
deriving DecidableEq, Repr

namespace Complaint

/-- A sentence about a parameter. -/
def about (parameter : String) (rest : String) : List Char :=
  "Parameter '".toList ++ parameter.toList ++ "' ".toList ++ rest.toList

/-- The wording of a complaint. -/
def text : Complaint → List Char
  | bodyNotMap => "Request body must be a JSON object".toList
  | noQuery => about "query" "is required and must be a string"
  | notInteger parameter => about parameter "must be an integer"
  | pageTooSmall => about "from" "must be greater than 0"
  | sizeOutOfRange =>
    about "size" "must be between " ++ integerText Fault.minPageSize ++ " and ".toList ++
      integerText Fault.maxPageSize
  | sortNotText => about "sort" "must be a string"
  | directionNotBoolean => about "sortDescending" "must be a boolean"
  | notDate parameter => about parameter "is not a valid date/time"

end Complaint

/-- Why a request is refused. -/
inductive Rejection where
  /-- Its parameters are not acceptable. -/
  | unacceptable (complaint : Complaint)
  /-- There is no such path. -/
  | noSuchPath
  /-- There is no such record. -/
  | noSuchRecord (id : Int)
  /-- The endpoint has other methods only. -/
  | wrongMethod (allowed : List String)
  /-- The service is broken. -/
  | broken
deriving DecidableEq, Repr

namespace Rejection

/-- The status code. -/
def status : Rejection → Nat
  | unacceptable _ => 400
  | noSuchPath => 404
  | noSuchRecord _ => 404
  | wrongMethod _ => 405
  | broken => 500

/-- The name of the status. -/
def reason : Rejection → String
  | unacceptable _ => "Bad Request"
  | noSuchPath => "Not Found"
  | noSuchRecord _ => "Not Found"
  | wrongMethod _ => "Method Not Allowed"
  | broken => "Internal Server Error"

/-- The description for the caller. -/
def description : Rejection → List Char
  | unacceptable complaint => complaint.text
  | noSuchPath =>
    ("The requested URL was not found on the server. If you entered the URL manually please " ++
      "check your spelling and try again.").toList
  | noSuchRecord id => "Audit log ".toList ++ integerText id ++ " not found".toList
  | wrongMethod _ => "The method is not allowed for the requested URL.".toList
  | broken =>
    ("The server encountered an internal error and was unable to complete your request. Either " ++
      "the server is overloaded or there is an error in the application.").toList

/-- One entry of a body. -/
def entry (name : String) (value : List Char) : List Char :=
  Json.string name.toList ++ ": ".toList ++ value

/-- The body that describes a refusal of a request with a method and a path. -/
def body (rejection : Rejection) (method : String) (path : List Char) : List Char :=
  '\x7b' :: join ", ".toList
    [entry "ok" "false".toList, entry "error" (Json.string rejection.reason.toList),
      entry "code" (integerText rejection.status),
      entry "description" (Json.string rejection.description),
      entry "path" (Json.string path), entry "method" (Json.string method.toList)] ++ ['\x7d']

end Rejection

end AuditTrail.Http
