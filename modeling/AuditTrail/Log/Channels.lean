import AuditTrail.Log.Entry
import AuditTrail.Log.File
/-!
Where log entries go. Starting the log replaces the channels of an earlier start and leaves those
that others have added.
-/

namespace AuditTrail.Log

open Text

/-- The kinds of channels. -/
inductive Channel where
  /-- One that others have added. -/
  | foreign (name : String)
  /-- Files. -/
  | file (writer : Writer)
  /-- The console, for entries from a threshold on. -/
  | console (threshold : Threshold)
deriving DecidableEq, Repr

/-- A channel in use, told apart by its number. -/
structure Handler where
  /-- The number. -/
  number : Nat
  /-- The channel. -/
  channel : Channel
deriving DecidableEq, Repr

/-- Whether starting the log made a handler. -/
def Handler.isOwn (handler : Handler) : Bool :=
  match handler.channel with
  | .foreign _ => false
  | _ => true

/-- The state of the log. -/
structure State where
  /-- The threshold of all channels. -/
  threshold : Threshold
  /-- The handlers in use, in the order in which they were added. -/
  handlers : List Handler
  /-- The numbers of the handlers that were closed. -/
  closed : List Nat
  /-- The number of handlers so far. -/
  count : Nat
  /-- The files. -/
  disk : Disk
  /-- What the console shows. -/
  console : List Char

/-- How the log is started. -/
structure Options where
  /-- The name of the program. -/
  label : List Char
  /-- The directory of the files, if one is given. -/
  directory : Option (List Char)
  /-- What is given as threshold. -/
  threshold : Value
  /-- Whether entries go to the console, too. -/
  toConsole : Bool
  /-- The limit of the files' size. -/
  limit : Int

/-- The program that writes the log: its environment settings, its root directory and its number. -/
structure Program where
  /-- The environment settings. -/
  environment : Environment
  /-- The root directory. -/
  root : Path
  /-- The number. -/
  number : Nat

/-- A text that is not empty. -/
def nonempty? (text : Option (List Char)) : Option (List Char) := text.filter fun t => !t.isEmpty

/-- The directory of log files: the given one, else that of the environment settings, else one
below the root directory. -/
def directory (program : Program) (given : Option (List Char)) : Path :=
  let setting := (program.environment.get? "LOG_DIR").map String.toList
  match (nonempty? given).or (nonempty? setting) with
  | some text => .read text
  | none => program.root.append (.read "var/logs".toList)

namespace State

/-- Adds a channel. -/
def add (channel : Channel) (state : State) : State :=
  { state with
    handlers := state.handlers ++ [⟨state.count, channel⟩]
    count := state.count + 1 }

/-- Removes the handlers of an earlier start and closes them. -/
def release (state : State) : State :=
  { state with
    handlers := state.handlers.filter fun handler => !handler.isOwn
    closed := state.closed ++ (state.handlers.filter Handler.isOwn).map Handler.number }

/-- Adds a channel that writes files, and begins the first file. -/
def addFile (directory : Path) (label : List Char) (limit : Int) (now : Moment) (state : State) :
    State :=
  let (writer, disk) := Writer.begin directory label limit now state.disk
  { state with disk := disk }.add (.file writer)

/-- Whether an entry of a weight is written at all; entries without a positive weight never are. -/
def accepts (state : State) (weight : Int) : Bool :=
  0 < weight && state.threshold.weight ≤ weight

/-- Sends a line of a weight to one handler. -/
def send (weight : Int) (line : List Char) (now : Moment) (handler : Handler) (state : State) :
    Handler × State :=
  match handler.channel with
  | .foreign _ => (handler, state)
  | .file writer =>
    let (writer, disk) := writer.write now line state.disk
    ({ handler with channel := .file writer }, { state with disk := disk })
  | .console threshold =>
    if threshold.weight ≤ weight then
      (handler, { state with console := state.console ++ line ++ ['\n'] })
    else (handler, state)

/-- Sends a line of a weight to some handlers, one after the other. -/
def sendAll (weight : Int) (line : List Char) (now : Moment) :
    List Handler → State → List Handler × State
  | [], state => ([], state)
  | handler :: rest, state =>
    let (handler, state) := send weight line now handler state
    let (rest, state) := sendAll weight line now rest state
    (handler :: rest, state)

/-- Writes an entry. -/
def record (program : Program) (entry : Entry) (now : Moment) (state : State) : State :=
  if state.accepts entry.weight then
    let (handlers, after) :=
      sendAll entry.weight (entry.line program.number now) now state.handlers state
    { after with handlers := handlers }
  else state

/-- The entry that reports a start. -/
def startEntry (label : List Char) (directory : Path) (threshold : Threshold) : Entry :=
  { weight := Threshold.usual.weight
    source := ownSource
    message := "Logging started app=".toList ++ label ++ " dir=".toList ++ directory.text ++
      " level=".toList ++ threshold.text
    request := none }

/-- Starts the log. Nothing changes if the threshold cannot be read. -/
def start (program : Program) (options : Options) (now : Moment) (state : State) :
    Except Fault State := do
  let threshold ← Threshold.read program.environment options.threshold
  let place := directory program options.directory
  let state := ({ state with threshold := threshold }.release).addFile place options.label
    options.limit now
  let state := if options.toConsole then state.add (.console threshold) else state
  pure (state.record program (startEntry options.label place threshold) now)

end State

end AuditTrail.Log
