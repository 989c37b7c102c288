import AuditTrail.Sql.Statement
/-!
What the service does that others can see: statements, the life of engines and sessions, and log
entries, each in order.
-/

namespace AuditTrail.Service

/-- The weight of a log entry. -/
inductive Level where
  | debug
  | info
  | warning
  | error
deriving DecidableEq, Repr

/-- The name of a level. -/
def Level.name : Level → String
  | debug => "DEBUG"
  | info => "INFO"
  | warning => "WARNING"
  | error => "ERROR"

/-- The part of the service that writes a log entry. -/
inductive Source where
  | application
  | compiler
  | connection
  | records
  | schema
  | search
  | settings
deriving DecidableEq, Repr

/-- The name under which a part of the service logs. -/
def Source.name : Source → String
  | application => "auditlog.main"
  | compiler => "auditlog.query_compiler"
  | connection => "auditlog.db"
  | records => "auditlog.records"
  | schema => "auditlog.schema"
  | search => "auditlog.search"
  | settings => "auditlog.config_loader"

/-- A log entry. -/
structure LogEntry where
  /-- The weight. -/
  level : Level
  /-- The part of the service that writes it. -/
  source : Source
  /-- The text. -/
  message : List Char
  /-- The failure that it reports, if it reports one. -/
  failure : Option FaultKind
deriving DecidableEq, Repr

/-- The options of an engine. -/
structure EngineOptions where
  /-- The locator of the database. -/
  url : List Char
  /-- Whether statements are echoed. -/
  echo : Bool
  /-- The number of connections that are kept. -/
  poolSize : Int
  /-- The number of connections beyond those. -/
  maxOverflow : Int
  /-- Whether a connection is tried before it is used. -/
  prePing : Bool
deriving DecidableEq, Repr

/-- A step in the life of an engine or session. Engines and sessions are numbered from one. -/
inductive Event where
  | engineCreated (engine : Nat) (options : EngineOptions)
  | connected (engine : Nat)
  | disposed (engine : Nat)
  | opened (session engine : Nat)
  | executed (session : Nat)
  | rolledBack (session : Nat)
  | closed (session : Nat)
deriving DecidableEq, Repr

/-- Everything that can be seen of a run. -/
structure Journal where
  /-- The statements. -/
  statements : List Sql.Statement
  /-- The life of engines and sessions. -/
  events : List Event
  /-- The log. -/
  entries : List LogEntry

/-- The journal of a run that has not begun. -/
def Journal.empty : Journal := ⟨[], [], []⟩

end AuditTrail.Service
