import AuditTrail.Environment.Basic
import AuditTrail.Text.Percent
import AuditTrail.Value
/-!
The locator of the database: taken from the environment as it is, or made up of parts that are
resolved one by one. In logs the password is left out.
-/

namespace AuditTrail.Connection

open Text

/-- The parts of a locator. -/
structure Parts where
  /-- The user. -/
  user : List Char
  /-- The password. -/
  password : List Char
  /-- The host. -/
  host : List Char
  /-- The port. -/
  port : List Char
  /-- The database. -/
  database : List Char
deriving DecidableEq, Repr

/-- The locator of some parts; the password is encoded. -/
def Parts.url (p : Parts) : List Char :=
  "postgresql+psycopg://".toList ++ p.user ++ ':' :: Percent.encodeField p.password ++ '@' ::
    p.host ++ ':' :: p.port ++ '/' :: p.database

/-- A setting that is not empty, or else a second one as it is. -/
def either? (environment : Environment) (first second : String) : Option String :=
  match environment.get? first with
  | some value => if value.isEmpty then environment.get? second else some value
  | none => environment.get? second

/-- The names under which the parts are set: in the environment and in the file, and the second
names in the environment. -/
def partNames : List (String × String) :=
  [("DB_USER", "PGUSER"), ("DB_PASSWORD", "PGPASSWORD"), ("DB_NAME", "PGDATABASE"),
    ("DB_HOST", "PGHOST"), ("DB_PORT", "PGPORT")]

/-- Whether some part is not set in the environment at all, so that the file is asked. -/
def needsFile (environment : Environment) : Bool :=
  partNames.any fun (first, second) => (either? environment first second).isNone

/-- A part: from the environment, else from the file, else the given one. An empty text counts as
missing in the end. -/
def part (environment file : Environment) (first second : String) (default : String) :
    List Char :=
  let value := match either? environment first second with
    | some value => some value
    | none => file.get? first
  match value with
  | some value => if value.isEmpty then default.toList else value.toList
  | none => default.toList

/-- The parts that an environment and a file give. -/
def partsOf (environment file : Environment) : Parts :=
  ⟨part environment file "DB_USER" "PGUSER" "auditlog",
    part environment file "DB_PASSWORD" "PGPASSWORD" "auditlog",
    part environment file "DB_HOST" "PGHOST" "127.0.0.1",
    part environment file "DB_PORT" "PGPORT" "5432",
    part environment file "DB_NAME" "PGDATABASE" "auditlog"⟩

/-- The locator that the environment gives as a whole. -/
def givenUrl? (environment : Environment) : Option (List Char) :=
  match environment.get? "DATABASE_URL" with
  | some url => if url.isEmpty then none else some url.toList
  | none => none

/-- The entries of a file of parts, as texts. -/
def fileEntries (entries : List (String × Value)) : Environment :=
  entries.map fun (name, value) => (name, String.ofList value.display)

/-- What stands before and after the first occurrence of a mark. -/
def cut? (mark : List Char) : List Char → Option (List Char × List Char)
  | [] => if mark.isEmpty then some ([], []) else none
  | c :: rest =>
    if mark.isPrefixOf (c :: rest) then some ([], (c :: rest).drop mark.length)
    else (cut? mark rest).map fun (before, after) => (c :: before, after)

/-- What stands after the last occurrence of a character. -/
def afterLast (c : Char) (text : List Char) : List Char :=
  (text.reverse.takeWhile (· != c)).reverse

/-- The locator as logs show it: everything between the user and the last `@` is replaced. -/
def redact (url : List Char) : List Char :=
  match cut? "://".toList url with
  | none => url
  | some (scheme, rest) =>
    if rest.contains '@' then
      let location := afterLast '@' rest
      let credentials := rest.take (rest.length - location.length - 1)
      scheme ++ "://".toList ++ credentials.takeWhile (· != ':') ++ ":***@".toList ++ location
    else url

end AuditTrail.Connection
