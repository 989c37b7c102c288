import AuditTrail.Http.Target
import AuditTrail.Json.Encoding
import AuditTrail.Text.Blank
import AuditTrail.Text.Case
/-!
Requests and responses. A request's body is read as JSON only if its media type says that it is
JSON.
-/

namespace AuditTrail.Http

open Text

/-- The body of a request. -/
structure Content where
  /-- The media type, with its parameters. -/
  mediaType : List Char
  /-- The bytes. -/
  data : List UInt8
deriving DecidableEq, Repr

/-- A request. -/
structure Request where
  /-- The method, in capital letters. -/
  method : String
  /-- The target. -/
  target : Target
  /-- The headers. -/
  headers : List (String × String)
  /-- The body, if there is one. -/
  content : Option Content
  /-- How many levels of nested lists and maps there is room to read in the body. -/
  room : Nat
deriving DecidableEq, Repr

/-- A response. -/
structure Response where
  /-- The status code. -/
  status : Nat
  /-- The headers. -/
  headers : List (String × List Char)
  /-- The body. -/
  body : List Char
deriving DecidableEq, Repr

/-- The media type of JSON. -/
def jsonType : List Char := "application/json".toList

/-- The media type of pages. -/
def pageType : List Char := "text/html; charset=utf-8".toList

namespace Content

/-- The media type without its parameters, in small letters. -/
def essence (content : Content) : List Char :=
  lower (trim (splitFirst ';' content.mediaType).1)

/-- Whether the media type says that the body is JSON. -/
def isJson (content : Content) : Bool :=
  content.essence == jsonType ||
    ("application/".toList.isPrefixOf content.essence && "+json".toList.isSuffixOf content.essence)

end Content

namespace Request

/-- The value of a header; letter case in its name has no meaning. -/
def header? (request : Request) (name : String) : Option String :=
  (request.headers.find? fun header => header.1.toLower == name.toLower).map (·.2)

/-- The value of the body; nothing for a body that is not JSON. -/
def json? (request : Request) : Except Json.Trouble (Option Value) :=
  match request.content with
  | none => .ok none
  | some content =>
    if content.isJson then
      match Json.readBytes request.room content.data with
      | .ok value => .ok (some value)
      | .error .tooDeep => .error .tooDeep
      | .error _ => .ok none
    else .ok none

end Request

namespace Response

/-- A response with a body of a media type. -/
def ofBody (status : Nat) (mediaType body : List Char) : Response :=
  ⟨status, [("Content-Type", mediaType)], body⟩

/-- The response with one more header. -/
def addHeader (response : Response) (name : String) (value : List Char) : Response :=
  { response with headers := response.headers ++ [(name, value)] }

/-- The value of a header. -/
def header? (response : Response) (name : String) : Option (List Char) :=
  response.headers.lookup name

end Response

end AuditTrail.Http
