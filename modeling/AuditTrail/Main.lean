import AuditTrail.Setup.Run
/-!
The program that sets up the table. It prints the statements for the database's own client to run,
as this library keeps no connection of its own.
-/

namespace AuditTrail.CommandLine

open Service

/-- The names of the environment settings that the program looks at. -/
def settingNames : List String :=
  (Connection.partNames.flatMap fun names => [names.1, names.2]) ++
    ["DATABASE_URL", "LOG_LEVEL", "SQLALCHEMY_ECHO", "SQLALCHEMY_MAX_OVERFLOW",
      "SQLALCHEMY_POOL_PRE_PING", "SQLALCHEMY_POOL_SIZE", Environment.disablingName]

/-- The environment settings that are set. -/
def environment : IO Environment := do
  let settings ← settingNames.mapM fun name => do
    pure ((← IO.getEnv name).map fun value => (name, value))
  pure (settings.filterMap id)

/-- The bytes of a file, if it can be read. -/
def bytes? (path : String) : IO (Option (List UInt8)) := do
  try
    pure (some (← IO.FS.readBinFile path).toList)
  catch _ => pure none

/-- The files of the current directory. -/
def files : IO Files := do
  pure {
    directory := "config".toList
    settings := ← bytes? "config/appconfig.json"
    connection := ← bytes? "config/db.json"
    backendEnvironment := ← bytes? "backend/.env"
    rootEnvironment := ← bytes? ".env"
    regions := .utcOnly
    room := fun _ => ⟨900, 900⟩ }

/-- A store without records. -/
def emptyStore : Store := fun _ _ => .ok ⟨.null, [], 0⟩

/-- Prints the statements of a run. -/
def printStatements (state : State) : IO Unit :=
  state.journal.statements.forM fun statement =>
    IO.println (String.ofList statement.text ++ ";")

/-- Runs the program with the arguments of its command line. -/
def run (arguments : List String) : IO UInt32 := do
  let state := State.initial (← environment) (← files) emptyStore
  let (outcome, state) := (Setup.run (arguments.map String.toList) none).run state
  printStatements state
  match outcome with
  | .ok report =>
    IO.print (String.ofList report.output)
    IO.eprint (String.ofList (report.guidance.getD []))
    pure report.status.toUInt32
  | .error fault =>
    IO.eprintln (fault.message?.getD "The table could not be set up.")
    pure 1

end AuditTrail.CommandLine

/-- The program that sets up the table. -/
def main (arguments : List String) : IO UInt32 := AuditTrail.CommandLine.run arguments
