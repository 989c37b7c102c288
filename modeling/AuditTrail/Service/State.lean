import AuditTrail.Connection.Url
import AuditTrail.Record
import AuditTrail.Service.Journal
/-!
The state of the service between two steps, and the actions that change it. An action either ends
with a result or with a fault; what it has done until then stays done.
-/

namespace AuditTrail.Service

/-- What the store answers to a statement: a single value, and rows. -/
structure Answer where
  /-- The single value. -/
  scalar : Value
  /-- The rows. -/
  rows : List Row
  /-- How many levels of nested metadata there is room to read in the rows. -/
  room : Nat

/-- A store: its answer to the statement with a number, counted from zero over the whole run. -/
abbrev Store := Nat → Sql.Statement → Except Fault Answer

/-- Where settings are read. How much of the stack is in use differs from place to place. -/
inductive Place where
  /-- An application is made. -/
  | startup
  /-- A text search needs its configuration. -/
  | search
  /-- The table is made or removed. -/
  | table
  /-- A listing needs a page size. -/
  | listing
  /-- The dates of a request need a zone. -/
  | dates
  /-- The locator of the database is made. -/
  | connection
deriving DecidableEq, Repr

/-- How deeply lists and maps may be nested at a place. -/
structure Room where
  /-- The levels of a text that can be read. -/
  read : Nat
  /-- The levels of a value that a log entry can show. -/
  shown : Nat

/-- The files that settings are read from, and what reading them depends on. -/
structure Files where
  /-- The directory of the service's own settings. -/
  directory : List Char
  /-- The settings of the service. -/
  settings : Option (List UInt8)
  /-- The parts of the database's locator. -/
  connection : Option (List UInt8)
  /-- Environment settings beside the program. -/
  backendEnvironment : Option (List UInt8)
  /-- Environment settings in the root directory. -/
  rootEnvironment : Option (List UInt8)
  /-- The regions that can be named. -/
  regions : Regions
  /-- The room for nested settings. -/
  room : Place → Room

/-- A directory without files, where universal time alone can be named. -/
def Files.absent (directory : List Char) : Files where
  directory := directory
  settings := .none
  connection := .none
  backendEnvironment := .none
  rootEnvironment := .none
  regions := .utcOnly
  room := fun _ => ⟨100, 100⟩

/-- A registry of sessions: it keeps one session until that is removed. -/
structure Registry where
  /-- The engine of its sessions. -/
  engine : Nat
  /-- The session that is kept. -/
  current : Option Nat
deriving DecidableEq, Repr

/-- The context of a request. -/
structure Context where
  /-- The session of the request. -/
  session : Option Nat
  /-- The settings of the application. -/
  settings : List (String × Value)

/-- The state of the service. -/
structure State where
  /-- The environment settings. -/
  environment : Environment
  /-- The files. -/
  files : Files
  /-- The store. -/
  store : Store
  /-- The fault of connecting to the store, if it cannot be reached. -/
  unreachable : Option Fault
  /-- The engine, once it is created. -/
  engine : Option Nat
  /-- The engine of new sessions, once it is created. -/
  factory : Option Nat
  /-- The registry of the requests' sessions, once it is created. -/
  registry : Option Registry
  /-- The contexts of the requests that are running, the innermost first. -/
  contexts : List Context
  /-- The number of engines so far. -/
  engineCount : Nat
  /-- The number of sessions so far. -/
  sessionCount : Nat
  /-- The sessions that are in a transaction. -/
  inTransaction : List Nat
  /-- The text search configuration of the file, once it was needed. -/
  searchConfiguration : Option String
  /-- Everything that can be seen. -/
  journal : Journal

/-- The service before its first step. -/
def State.initial (environment : Environment) (files : Files) (store : Store) : State where
  environment := environment
  files := files
  store := store
  unreachable := none
  engine := none
  factory := none
  registry := none
  contexts := []
  engineCount := 0
  sessionCount := 0
  inTransaction := []
  searchConfiguration := none
  journal := Journal.empty

/-- A step of the service. -/
abbrev Action := ExceptT Fault (StateM State)

/-- A session that statements run in. -/
inductive Handle where
  /-- A session that the caller owns. -/
  | given
  /-- A session of the service. -/
  | numbered (session : Nat)
deriving DecidableEq, Repr

namespace Action

/-- An action without a fault. -/
def update (f : State → State) : Action Unit := modify f

/-- The outcome of an action as a result. -/
def attempt {α : Type} (action : Action α) : Action (Except Fault α) :=
  ExceptT.mk do
    let outcome ← action.run
    pure (.ok outcome)

/-- Writes to the journal. -/
def note (f : Journal → Journal) : Action Unit :=
  update fun state => { state with journal := f state.journal }

/-- Writes a log entry. -/
def log (level : Level) (source : Source) (message : List Char) : Action Unit :=
  note fun journal =>
    { journal with entries := journal.entries ++ [⟨level, source, message, none⟩] }

/-- Writes a log entry about a fault. -/
def logFault (level : Level) (source : Source) (message : List Char) (fault : Fault) :
    Action Unit :=
  note fun journal =>
    { journal with entries := journal.entries ++ [⟨level, source, message, some fault.kind⟩] }

/-- Notes an event. -/
def event (e : Event) : Action Unit :=
  note fun journal => { journal with events := journal.events ++ [e] }

/-- Asks the store; the statement is noted before the store answers. -/
def ask (statement : Sql.Statement) : Action Answer := do
  let state ← get
  note fun journal => { journal with statements := journal.statements ++ [statement] }
  ofExcept (state.store state.journal.statements.length statement)

/-- Runs a statement in a session. -/
def execute (handle : Handle) (statement : Sql.Statement) : Action Answer := do
  match handle with
  | .given => ask statement
  | .numbered session =>
    event (.executed session)
    update fun state => { state with
      inTransaction := if state.inTransaction.contains session then state.inTransaction
        else session :: state.inTransaction }
    ask statement

end Action

end AuditTrail.Service
