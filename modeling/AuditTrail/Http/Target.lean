import AuditTrail.Text.Case
import AuditTrail.Text.Percent
import AuditTrail.Text.Pieces
/-!
What a request asks for: a host, a path and the fields of a query. The path is the decoded one; the
query keeps its spelling, and its fields are decoded one by one.
-/

namespace AuditTrail.Http

open Text

/-- The target of a request. -/
structure Target where
  /-- The host. -/
  host : List Char
  /-- The decoded path. It begins with exactly one slash. -/
  path : List Char
  /-- The query as it is written. -/
  query : List Char
deriving DecidableEq, Repr

namespace Target

/-- The host of a target that names none. -/
def defaultHost : List Char := "localhost".toList

/-- The host, which stands behind two slashes, and the path of a text that holds neither a query
nor a fragment. -/
def splitHost (text : List Char) : List Char × List Char :=
  match text with
  | '/' :: '/' :: rest => (rest.takeWhile (· != '/'), rest.dropWhile (· != '/'))
  | _ => ([], text)

/-- A host by its name in lower case; the usual port is left out. -/
def hostName (host : List Char) : List Char :=
  if host.isEmpty then defaultHost
  else
    let name := lower host
    if ":80".toList.isSuffixOf name then name.take (name.length - 3) else name

/-- Whether a character means nothing in a target: a tab or a line break. -/
def isIgnored (c : Char) : Bool := "\t\r\n".toList.contains c

/-- The decoded path with one leading slash. -/
def normalPath (path : List Char) : List Char := '/' :: (Percent.decode path).dropWhile (· == '/')

/-- The target that a text writes. Its fragment has no meaning here, and neither has a second host
behind the first one. -/
def read (text : List Char) : Target :=
  let written := (text.filter fun c => !isIgnored c).takeWhile (· != '#')
  let (address, query) := splitFirst '?' written
  let (host, path) := splitHost address
  ⟨hostName host, normalPath (splitHost path).2, query⟩

/-- The locator of another path at the same host, with the same query. -/
def locate (target : Target) (path : List Char) : List Char :=
  "http://".toList ++ target.host ++ Percent.encodePath path ++
    (if target.query.isEmpty then [] else '?' :: Percent.encodeQuery target.query)

/-- The fields of a query in order, as they are written. -/
def rawFields (query : List Char) : List (List Char × List Char) :=
  ((pieces '&' query).filter fun part => !part.isEmpty).map (splitFirst '=')

/-- The value of the first field of a name. -/
def field? (target : Target) (name : String) : Option (List Char) :=
  ((rawFields target.query).find? fun field =>
    Percent.decodeField field.1 == name.toList).map fun field => Percent.decodeField field.2

end Target

end AuditTrail.Http
