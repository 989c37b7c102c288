import AuditTrail.Http.Message
/-!
Permission for pages of other origins to use the service: every origin may, and a preflight
request learns which methods and headers it may use.
-/

namespace AuditTrail.Http.CrossOrigin

open Text

/-- The methods that other origins may use. -/
def methods : List Char := "DELETE, GET, HEAD, OPTIONS, PATCH, POST, PUT".toList

/-- The origin of a request, if it names one. -/
def origin? (request : Request) : Option String :=
  match request.header? "Origin" with
  | some origin => if origin.isEmpty then none else some origin
  | none => none

/-- The headers about the origin. The response depends on the origin if it names it. -/
def originHeaders (request : Request) : List (String × List Char) :=
  match origin? request with
  | none => [("Access-Control-Allow-Origin", ['*'])]
  | some origin =>
    ("Access-Control-Allow-Origin", origin.toList) ::
      (if origin == "*" then [] else [("Vary", "Origin".toList)])

/-- Whether a text occurs in another one. -/
def occursIn (part : List Char) : List Char → Bool
  | [] => part.isEmpty
  | c :: rest => part.isPrefixOf (c :: rest) || occursIn part rest

/-- Whether a preflight request asks for a method that may be used. -/
def asksForMethod (request : Request) : Bool :=
  let method := upper ((request.header? "Access-Control-Request-Method").getD "").toList
  !method.isEmpty && occursIn method methods

/-- Whether a text sorts before another one or at its place. -/
def textLe (a b : List Char) : Bool := !decide (String.ofList b < String.ofList a)

/-- The headers that a preflight request asks for, in ascending order. -/
def askedHeaders (request : Request) : List Char :=
  let asked := ((request.header? "Access-Control-Request-Headers").getD "").toList
  join ", ".toList (((pieces ',' asked).map trim).mergeSort textLe)

/-- The headers for a preflight request. -/
def preflightHeaders (request : Request) : List (String × List Char) :=
  if request.method == "OPTIONS" && asksForMethod request then
    (if (askedHeaders request).isEmpty then []
      else [("Access-Control-Allow-Headers", askedHeaders request)]) ++
      [("Access-Control-Allow-Methods", methods)]
  else []

/-- The response with the permission for other origins. -/
def permit (request : Request) (response : Response) : Response :=
  { response with headers := response.headers ++ originHeaders request ++ preflightHeaders request }

end AuditTrail.Http.CrossOrigin
