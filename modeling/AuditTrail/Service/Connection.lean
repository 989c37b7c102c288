import AuditTrail.Environment.File
import AuditTrail.Service.State
/-!
The life of engines and sessions. An engine is created when it is first needed; a request has one
session, which is closed when the request ends, and work outside a request has a session of its
own.
-/

namespace AuditTrail.Service

open Text

/-- The text of a truth value in messages. -/
def truthText (b : Bool) : List Char := (Value.bool b).literal

/-- A whole number in an environment setting. -/
def numberSetting (environment : Environment) (name : String) (default : Int) :
    Except Fault Int :=
  match environment.get? name with
  | none => .ok default
  | some value =>
    match readInteger? value.toList with
    | some n => .ok n
    | none => .error (.unconvertible .invalid)

/-- The options of an engine at a locator. -/
def engineOptions (environment : Environment) (url : List Char) : Except Fault EngineOptions := do
  let echo ← numberSetting environment "SQLALCHEMY_ECHO" 0
  let poolSize ← numberSetting environment "SQLALCHEMY_POOL_SIZE" 5
  let maxOverflow ← numberSetting environment "SQLALCHEMY_MAX_OVERFLOW" 10
  let prePing ← numberSetting environment "SQLALCHEMY_POOL_PRE_PING" 1
  pure ⟨url, echo != 0, poolSize, maxOverflow, prePing != 0⟩

/-- The line that reports a new engine; the password is not in it. -/
def engineMessage (options : EngineOptions) : List Char :=
  "Creating DB engine url=".toList ++ Connection.redact options.url ++ " echo=".toList ++
    truthText options.echo ++ " pool_size=".toList ++ integerText options.poolSize ++
    " max_overflow=".toList ++ integerText options.maxOverflow ++ " pre_ping=".toList ++
    truthText options.prePing

namespace Action

/-- Adds the settings of an environment file, if there is one and such files are to be read. -/
def loadEnvironment (file : Option (List UInt8)) (message : String) : Action Unit := do
  match file with
  | none => pure ()
  | some data =>
    log .debug .connection message.toList
    let environment := (← get).environment
    if environment.readsFiles then
      match Utf8.decode? data with
      | none => throw .undecodable
      | some text =>
        let (environment, refused) := environment.load text
        update fun state => { state with environment := environment }
        match refused with
        | some name => throw (.unsettable name)
        | none => pure ()

/-- The parts of the locator that a file gives. -/
def connectionFile : Action Environment := do
  let state ← get
  match state.files.connection with
  | none => pure []
  | some data =>
    let path := state.files.directory ++ "/db.json".toList
    let read : Except Fault Value :=
      match Utf8.decode? data with
      | none => .error .undecodable
      | some text =>
        match Json.read (state.files.room .connection).read text with
        | .ok value => .ok value
        | .error trouble => .error (.json trouble)
    match read with
    | .error fault =>
      logFault .warning .connection ("Failed to read ".toList ++ path) fault
      pure []
    | .ok (.map entries) =>
      log .debug .connection ("db cfg loaded json file ".toList ++ path)
      pure (Connection.fileEntries entries)
    | .ok _ => pure []

/-- The locator of the database. -/
def databaseUrl : Action (List Char) := do
  let files := (← get).files
  loadEnvironment files.backendEnvironment "loading backend/.env"
  loadEnvironment files.rootEnvironment "loading root/.env"
  let environment := (← get).environment
  match Connection.givenUrl? environment with
  | some url => pure url
  | none =>
    let file ← if Connection.needsFile environment then connectionFile else pure []
    pure (Connection.partsOf environment file).url

/-- Creates an engine, with a factory and a registry of sessions on it. -/
def createEngine (options : EngineOptions) : Action Nat := do
  let number := (← get).engineCount + 1
  event (.engineCreated number options)
  update fun state => { state with
    engineCount := number
    engine := some number
    factory := some number
    registry := some ⟨number, none⟩ }
  pure number

/-- The engine; it is created when it is first needed. -/
def engine : Action Nat := do
  match (← get).engine with
  | some number => pure number
  | none =>
    let url ← databaseUrl
    let options ← ofExcept (engineOptions (← get).environment url)
    log .info .connection (engineMessage options)
    createEngine options

/-- Opens a session on an engine. -/
def openSession (engine : Nat) : Action Nat := do
  let number := (← get).sessionCount + 1
  event (.opened number engine)
  update fun state => { state with sessionCount := number }
  pure number

/-- Leaves the transaction of a session. -/
def leaveTransaction (session : Nat) : Action Unit :=
  update fun state => { state with inTransaction := state.inTransaction.filter (· != session) }

/-- Closes a session. -/
def closeSession (session : Nat) : Action Unit := do
  event (.closed session)
  leaveTransaction session

/-- Takes back the transaction of a session, if it is in one. -/
def rollBack (session : Nat) : Action Unit := do
  if (← get).inTransaction.contains session then
    event (.rolledBack session)
    leaveTransaction session

/-- Closes and forgets the session that the registry keeps. -/
def removeCurrent : Action Unit := do
  match (← get).registry with
  | none => pure ()
  | some registry =>
    match registry.current with
    | none => pure ()
    | some session =>
      closeSession session
      update fun state => { state with registry := some { registry with current := none } }

/-- The session that the registry keeps; it is opened when there is none. -/
def currentSession : Action Nat := do
  match (← get).registry with
  | none => throw .outsideContext
  | some registry =>
    match registry.current with
    | some session => pure session
    | none =>
      let session ← openSession registry.engine
      update fun state => { state with registry := some { registry with current := some session } }
      pure session

/-- The session of the running request. -/
def requestSession : Action Nat := do
  if (← get).registry.isNone then
    let _ ← engine
  match (← get).contexts with
  | [] => throw .outsideContext
  | context :: outer =>
    match context.session with
    | some session => pure session
    | none =>
      let session ← currentSession
      update fun state => { state with
        contexts := { context with session := some session } :: outer }
      pure session

/-- A new session of its own. -/
def ownSession : Action Nat := do
  if (← get).factory.isNone then
    let _ ← engine
  match (← get).factory with
  | none => throw .outsideContext
  | some engine => openSession engine

/-- Work in a session whose transaction is taken back when the work fails. -/
def guarded {α : Type} (session : Nat) (work : Handle → Action α) : Action α := do
  match ← attempt (work (.numbered session)) with
  | .ok result => pure result
  | .error fault =>
    rollBack session
    throw fault

/-- Work in the session of the running request, or else in a session of its own that is closed
when the work ends. -/
def withSession {α : Type} (work : Handle → Action α) : Action α := do
  if (← get).contexts.isEmpty then
    let session ← ownSession
    let outcome ← attempt (guarded session work)
    closeSession session
    ofExcept outcome
  else
    let session ← requestSession
    guarded session work

/-- Connects to the store. -/
def connect : Action Unit := do
  let number ← engine
  event (.connected number)
  match (← get).unreachable with
  | some fault => throw fault
  | none => pure ()

/-- The statement that tries a connection. -/
def probe : Sql.Statement := ⟨"select 1".toList, []⟩

/-- Whether the store can be reached. -/
def ping : Action Bool := do
  let outcome ← attempt do
    connect
    let _ ← ask probe
    pure ()
  match outcome with
  | .ok _ => pure true
  | .error fault =>
    logFault .error .connection "DB ping failed".toList fault
    pure false

/-- Gives up the engine and all that belongs to it. -/
def dispose : Action Unit := do
  removeCurrent
  let engine := (← get).engine
  update fun state => { state with registry := none, factory := none, engine := none }
  match engine with
  | some number => event (.disposed number)
  | none => pure ()

/-- Ends the use of the session of a request. -/
def cleanUp : Action Unit := do
  update fun state => { state with
    contexts := match state.contexts with
      | context :: outer => { context with session := none } :: outer
      | [] => [] }
  removeCurrent

/-- Begins a request. -/
def enter (settings : List (String × Value)) : Action Unit :=
  update fun state => { state with contexts := ⟨none, settings⟩ :: state.contexts }

/-- Ends a request without any cleaning up. -/
def leave : Action Unit :=
  update fun state => { state with contexts := state.contexts.tail }

end Action

end AuditTrail.Service
