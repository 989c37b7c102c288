import AuditTrail.Http.CrossOrigin
import AuditTrail.Http.Handler
/-!
The application: it takes a request to its endpoint, and turns whatever happens there into a
response. Nothing that goes wrong leaves a request without a response, and the session of a request
ends with it.
-/

namespace AuditTrail.Http

open Text Service Action

/-- The application. -/
structure Application where
  /-- Its settings. -/
  settings : List (String × Value)
  /-- The failure of the work that follows each response, if that fails. -/
  afterwards : Option Fault

namespace Application

/-- The application with the settings of the file. -/
def create : Action Application := do
  pure ⟨← applicationSettings, none⟩

/-- A method and a path as log entries name them. -/
def place (request : Request) : List Char :=
  request.method.toList ++ ' ' :: request.target.path

/-- The response to a request that is refused. -/
def reject (request : Request) (rejection : Rejection) : Action Response := do
  log .warning .application ("HTTP ".toList ++ integerText rejection.status ++ " on ".toList ++
    place request ++ ": ".toList ++ rejection.description)
  let response := Response.ofBody rejection.status jsonType
    (rejection.body request.method request.target.path)
  match rejection with
  | .wrongMethod allowed =>
    pure (response.addHeader "Allow" (join ", ".toList (allowed.map String.toList)))
  | _ => pure response

/-- The body that tells of a fault, without its cause. -/
def faultBody : List Char :=
  "\x7b\"error\":\"Internal Server Error\",\"ok\":false\x7d\n".toList

/-- The response to a request whose handling failed. -/
def apologize (request : Request) (fault : Fault) : Action Response := do
  logFault .error .application ("Unhandled exception on ".toList ++ place request) fault
  pure (.ofBody 500 jsonType faultBody)

/-- The text of a value as a body. -/
def bodyOf (value : Value) : Except Fault (List Char) :=
  match Json.compact value with
  | .ok text => .ok (text ++ ['\n'])
  | .error .unsupported => .error .unprintable
  | .error .outsideCalendar => .error .outsideCalendar

/-- The response of an endpoint. -/
def respond (clock : Clock) (request : Request) (endpoint : Endpoint) : Action Response := do
  let outcome ← attempt (do
    match ← handle clock request endpoint with
    | .answered status value =>
      let body ← ofExcept (bodyOf value)
      pure (Except.ok (Response.ofBody status jsonType body))
    | .rejected rejection => pure (Except.error rejection))
  match outcome with
  | .ok (.ok response) => pure response
  | .ok (.error rejection) => reject request rejection
  | .error fault => apologize request fault

/-- The methods of an endpoint as a response. -/
def describe (endpoint : Endpoint) : Response :=
  (Response.ofBody 200 pageType []).addHeader "Allow"
    (join ", ".toList (endpoint.methods.map String.toList))

/-- The response that sends a request to another path. -/
def redirect (target : Target) (path : List Char) : Response :=
  (Response.ofBody 308 pageType []).addHeader "Location" (target.locate path)

/-- The response to a request by its route. It fails only for the number of a record with too many
digits. -/
def follow (clock : Clock) (request : Request) : Route → Action Response
  | .found (.record none) => throw (.unconvertible .invalid)
  | .found endpoint =>
    if request.method == "OPTIONS" then pure (describe endpoint)
    else respond clock request endpoint
  | .redirected path => pure (redirect request.target path)
  | .wrongMethod allowed => reject request (.wrongMethod allowed)
  | .unknown => reject request .noSuchPath

/-- The response when the service itself is broken. -/
def breakDown (application : Application) (request : Request) (fault : Fault) :
    Action Response := do
  logFault .error .application ("Exception on ".toList ++ request.target.path ++ " [".toList ++
    request.method.toList ++ "]".toList) fault
  let response ← reject request .broken
  match application.afterwards with
  | some fault =>
    logFault .error .application
      "Request finalizing failed with an error while handling an error".toList fault
  | none => pure ()
  pure response

/-- The response to a request before permissions are added. -/
def produce (application : Application) (clock : Clock) (request : Request) : Action Response := do
  match ← attempt (follow clock request (.of request.method request.target.path)) with
  | .error fault => breakDown application request fault
  | .ok response =>
    match application.afterwards with
    | some fault => breakDown application request fault
    | none => pure response

/-- The response as it is sent: requests for headers only get no body. -/
def finish (request : Request) (response : Response) : Response :=
  let response := CrossOrigin.permit request response
  if request.method == "HEAD" then { response with body := [] } else response

/-- Handles a request. -/
def serve (application : Application) (clock : Clock) (request : Request) : Action Response := do
  enter application.settings
  let response ← produce application clock request
  cleanUp
  leave
  pure (finish request response)

end Application

end AuditTrail.Http
