import AuditTrail.Coercion
import AuditTrail.Text.Identifier
/-!
The settings of the service and what they mean. Whatever a setting holds, there is a text search
configuration, a page size and a time zone; only an infinite page size is refused.
-/

namespace AuditTrail.Settings

open Text

/-- The text search configuration where none is set. -/
def defaultSearchConfiguration : String := "english"

/-- The page size where none is set. -/
def defaultPageSize : Nat := 10

/-- The entry of a name, where the settings are a map. -/
def entry (settings : Value) (name : String) : Value :=
  match settings with
  | .map entries => (entries.lookup name).getD .null
  | _ => .null

/-- The text search configuration that a setting names. -/
def configuration? : Value → Option String
  | .text s => if isIdentifier (trim s.toList) then some (String.ofList (trim s.toList)) else none
  | _ => none

/-- The text search configuration. -/
def searchConfiguration (settings : Value) : String :=
  (configuration? (entry settings "text_search_config")).getD defaultSearchConfiguration

/-- Whether a text search configuration is set that cannot be used. -/
def ignoresConfiguration (settings : Value) : Bool :=
  let raw := entry settings "text_search_config"
  !raw.isNull && (configuration? raw).isNone

/-- A page size brought into the accepted range. -/
def clampPageSize (n : Int) : Nat :=
  (max (Fault.minPageSize : Int) (min (Fault.maxPageSize : Int) n)).toNat

/-- The page size. -/
def pageSize (settings : Value) : Except Fault Nat :=
  match (entry settings "default_page_size").toInt with
  | .ok n => .ok (clampPageSize n)
  | .error .tooLarge => .error (.unconvertible .tooLarge)
  | .error _ => .ok defaultPageSize

/-- The name of the time zone. -/
def zoneName (settings : Value) : String :=
  match entry settings "timezone" with
  | .text s =>
    let name := trim s.toList
    if name.isEmpty then Region.utc.name else String.ofList name
  | _ => Region.utc.name

/-- The time zone; universal time where the name is unknown. -/
def region (regions : Regions) (settings : Value) : Region :=
  (regions.find? (zoneName settings)).getD .utc

/-- The settings of an application: those of the file, and the three that the service reads. -/
def application (regions : Regions) (settings : Value) :
    Except Fault (List (String × Value)) := do
  let entries := match settings with
    | .map entries => entries
    | _ => []
  let entries := Value.insert "TEXT_SEARCH_CONFIG" (.text (searchConfiguration settings)) entries
  let size ← pageSize settings
  let entries := Value.insert "DEFAULT_PAGE_SIZE" (.int size) entries
  pure (Value.insert "TZ" (.zone (.region (region regions settings))) entries)

end AuditTrail.Settings
