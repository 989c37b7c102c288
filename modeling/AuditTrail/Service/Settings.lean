import AuditTrail.Service.State
import AuditTrail.Settings
/-!
Reading the settings of the service from their file, with a log entry for whatever cannot be used.
-/

namespace AuditTrail.Service.Action

open Text

/-- The path of the settings. -/
def settingsPath : Action (List Char) := do
  pure ((← get).files.directory ++ "/appconfig.json".toList)

/-- The settings of the file; none when the file is missing or holds no map. -/
def loadSettings (place : Place) : Action Value := do
  let path ← settingsPath
  let room := (← get).files.room place
  match (← get).files.settings with
  | none =>
    log .debug .settings ("No configuration file at ".toList ++ path ++ "; using defaults".toList)
    pure (.map [])
  | some data =>
    let read : Except Fault Value :=
      match Utf8.decode? data with
      | none => .error .undecodable
      | some text =>
        match Json.read room.read text with
        | .ok value => .ok value
        | .error trouble => .error (.json trouble)
    match read with
    | .error fault =>
      logFault .warning .settings
        ("Could not read ".toList ++ path ++ "; falling back to defaults".toList) fault
      pure (.map [])
    | .ok (.map entries) => pure (.map entries)
    | .ok _ =>
      log .warning .settings
        (path ++ " does not hold a JSON object; falling back to defaults".toList)
      pure (.map [])

/-- Settings, or those of the file where none are given. -/
def settingsOr (place : Place) : Value → Action Value
  | .null => loadSettings place
  | settings => pure settings

/-- Reports a text search configuration that cannot be used. A value that is nested too deeply for
the log entry fails. -/
def reportIgnored (place : Place) (value : Value) : Action Unit := do
  if ((← get).files.room place).shown < value.height then throw .tooNested
  log .warning .settings ("Ignoring invalid text_search_config=".toList ++ value.literal)

/-- The text search configuration of some settings. -/
def searchConfiguration (place : Place) (settings : Value) : Action String := do
  let settings ← settingsOr place settings
  if Settings.ignoresConfiguration settings then
    reportIgnored place (Settings.entry settings "text_search_config")
  pure (Settings.searchConfiguration settings)

/-- The page size of some settings. -/
def pageSize (place : Place) (settings : Value) : Action Nat := do
  let settings ← settingsOr place settings
  ofExcept (Settings.pageSize settings)

/-- The time zone of some settings. -/
def region (place : Place) (settings : Value) : Action Region := do
  let settings ← settingsOr place settings
  let name := Settings.zoneName settings
  let regions := (← get).files.regions
  if (regions.find? name).isNone then
    logFault .warning .settings ("Unknown timezone ".toList ++ quoted name.toList ++
      "; falling back to UTC".toList) (.unknownZone name)
  pure (Settings.region regions settings)

/-- The settings of an application. -/
def applicationSettings : Action (List (String × Value)) := do
  let settings ← loadSettings .startup
  let _ ← searchConfiguration .startup settings
  let application ← ofExcept (Settings.application (← get).files.regions settings)
  let _ ← region .startup settings
  pure application

/-- A setting of the running request's application. -/
def applicationSetting (name : String) : Action Value := do
  match (← get).contexts with
  | context :: _ => pure ((context.settings.lookup name).getD .null)
  | [] => pure .null

/-- The text search configuration of the file, read until that succeeds once in a run. -/
def storedSearchConfiguration : Action String := do
  match (← get).searchConfiguration with
  | some configuration => pure configuration
  | none =>
    let configuration ← searchConfiguration .search .null
    update fun state => { state with searchConfiguration := some configuration }
    pure configuration

/-- The text search configuration in force: the application's, else that of the file. -/
def activeSearchConfiguration : Action String := do
  match ← applicationSetting "TEXT_SEARCH_CONFIG" with
  | .text configuration =>
    if configuration.isEmpty then storedSearchConfiguration else pure configuration
  | _ => storedSearchConfiguration

end AuditTrail.Service.Action
