import AuditTrail.Http.Target
import AuditTrail.Number.Integer
import AuditTrail.Text.Numeral
/-!
The endpoints of the service, and which of them a method and a path reach. A path that lacks its
final slash, or that has more slashes than one in a row, is sent to the right one.
-/

namespace AuditTrail.Http

open Text

/-- An endpoint. -/
inductive Endpoint where
  /-- Searching records. -/
  | search
  /-- Listing records. -/
  | list
  /-- One record, by its identifier; nothing in place of a number with too many digits. -/
  | record (id : Option Int)
  /-- Whether the service runs. -/
  | liveness
  /-- Whether the store can be reached. -/
  | reachability
  /-- A fixed file; there is none. -/
  | asset
deriving DecidableEq, Repr

namespace Endpoint

/-- The path of the list of records. -/
def listPath : List Char := "/api/auditlogs/".toList

/-- The path of the list of records without its final slash. -/
def bareListPath : List Char := "/api/auditlogs".toList

/-- Where the paths of fixed files begin. -/
def assetStart : List Char := "/static/".toList

/-- The paths of the endpoints that have fixed ones. -/
def fixedPaths : List (List Char × Endpoint) :=
  [(listPath, list), ("/api/auditlogs/search".toList, search),
    ("/api/auditlogs/_search".toList, search), ("/api/auditlogs/_health".toList, liveness),
    ("/api/health".toList, reachability)]

/-- Whether a text names a fixed file. -/
def isAssetName : List Char → Bool
  | [] => false
  | c :: rest => c != '/' && !rest.contains '\n'

/-- The endpoint below the list of records that a name stands for. -/
def below? (name : List Char) : Option Endpoint :=
  if !name.isEmpty && name.all isDecimal then some (record (readInteger? name)) else none

/-- The endpoint at a path. -/
def at? (path : List Char) : Option Endpoint :=
  match fixedPaths.lookup path with
  | some endpoint => some endpoint
  | none =>
    if listPath.isPrefixOf path then below? (path.drop listPath.length)
    else if assetStart.isPrefixOf path && isAssetName (path.drop assetStart.length) then some asset
    else none

/-- The methods of endpoints that are read. -/
def readMethods : List String := ["GET", "HEAD", "OPTIONS"]

/-- The methods of an endpoint, in ascending order. -/
def methods : Endpoint → List String
  | search => ["OPTIONS", "POST"]
  | _ => readMethods

end Endpoint

/-- Where a request goes. -/
inductive Route where
  /-- To an endpoint, by a method that it has. -/
  | found (endpoint : Endpoint)
  /-- To another path. -/
  | redirected (path : List Char)
  /-- Nowhere, as the endpoint has other methods only. -/
  | wrongMethod (allowed : List String)
  /-- Nowhere, as there is no such path. -/
  | unknown
deriving DecidableEq, Repr

namespace Route

/-- The path with each run of slashes as one slash. -/
def mergeSlashes : List Char → List Char
  | '/' :: '/' :: rest => mergeSlashes ('/' :: rest)
  | c :: rest => c :: mergeSlashes rest
  | [] => []

/-- Where a method and a path go that is taken as it is; nothing if there is no such path. -/
def direct? (method : String) (path : List Char) : Option Route :=
  match Endpoint.at? path with
  | some endpoint =>
    if endpoint.methods.contains method then some (found endpoint)
    else some (wrongMethod endpoint.methods)
  | none =>
    if path == Endpoint.bareListPath && Endpoint.readMethods.contains method then
      some (redirected Endpoint.listPath)
    else none

/-- Where a request goes by its method and path. -/
def of (method : String) (path : List Char) : Route :=
  match direct? method path with
  | some route => route
  | none =>
    let merged := mergeSlashes path
    if merged == path then unknown
    else match direct? method merged with
      | some (found _) => redirected merged
      | some route => route
      | none => unknown

end Route

end AuditTrail.Http
