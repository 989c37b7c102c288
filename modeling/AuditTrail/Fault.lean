import AuditTrail.Json.Reader
/-!
What can go wrong, by cause, with the kind and the wording that callers see.
-/

namespace AuditTrail

open Text

/-- The kinds of failure that callers tell apart. -/
inductive FaultKind where
  /-- A value that is not acceptable. -/
  | value
  /-- A value of an unsupported kind. -/
  | type
  /-- A number beyond its range. -/
  | overflow
  /-- A refusal of the platform. -/
  | platform
  /-- A failure of a collaborator, or an operation outside its context. -/
  | runtime
  /-- A decimal calculation without a result. -/
  | calculation
  /-- Text that is not JSON. -/
  | json
  /-- Bytes that are not text. -/
  | encoding
  /-- Nesting beyond its limit. -/
  | nesting
  /-- A missing time zone. -/
  | zone
deriving DecidableEq, Repr

/-- Whether a failure says that something that was given is not acceptable; so do bytes that are no
text and text that is no JSON. -/
def FaultKind.isUnacceptable : FaultKind → Bool
  | .value | .encoding | .json => true
  | _ => false

/-- A cause of failure. -/
inductive Fault where
  /-- A page number below one. -/
  | pageBelowOne (page : Int)
  /-- A page size outside its range. -/
  | pageSizeOutOfRange (size : Int)
  /-- A condition on a column that cannot be searched. -/
  | columnNotSearchable (column : String)
  /-- A condition joined by something else than AND or OR. -/
  | unsupportedJoin (operator : Option String)
  /-- A value that is no truth value. -/
  | notBoolean (value : Value)
  /-- A value that is no whole number. -/
  | notInteger (value : Value)
  /-- A value that is no point in time. -/
  | notTimestamp (value : Value)
  /-- A text search configuration that is no identifier. -/
  | invalidSearchConfiguration (value : Value)
  /-- A failure raised by the store or by the caller's own work. -/
  | raised (kind : FaultKind) (message : String)
  /-- A value that is no number of the kind asked for. -/
  | unconvertible (cause : Unconvertible)
  /-- A moment that the calendar does not have by the clock of universal time. -/
  | outsideCalendar
  /-- An offset of a day or more. -/
  | offsetTooLong
  /-- A part of an hour or minute asked of a number with too many digits. -/
  | impreciseClock
  /-- A count of seconds that is undefined. -/
  | undefinedSeconds
  /-- A count of seconds beyond sixty-four bits. -/
  | secondsTooMany
  /-- A year that the calendar does not have. -/
  | yearOutOfRange
  /-- A year beyond the platform's calendar. -/
  | yearTooDistant
  /-- A request's session asked for outside a request. -/
  | outsideContext
  /-- A value that cannot be written. -/
  | unprintable
  /-- Text that holds no JSON value. -/
  | json (trouble : Json.Trouble)
  /-- Bytes that hold no text. -/
  | undecodable
  /-- A setting that an environment cannot hold. -/
  | unsettable (name : String)
  /-- A time zone that does not exist. -/
  | unknownZone (name : String)
  /-- A value that is nested too deeply to be shown. -/
  | tooNested

namespace Fault

/-- The kind of a number that could not be converted. -/
def kindOf : Unconvertible → FaultKind
  | .invalid => .value
  | .tooLarge => .overflow
  | .unsupported => .type

/-- The kind of a failure. -/
def kind : Fault → FaultKind
  | raised kind _ => kind
  | unconvertible cause => kindOf cause
  | outsideCalendar => .overflow
  | secondsTooMany => .overflow
  | impreciseClock => .calculation
  | yearTooDistant => .platform
  | outsideContext => .runtime
  | unprintable => .type
  | json .malformed => .json
  | json .longNumber => .value
  | json .tooDeep => .nesting
  | undecodable => .encoding
  | unknownZone _ => .zone
  | tooNested => .nesting
  | _ => .value

/-- The least size of a page. -/
def minPageSize : Nat := 1

/-- The greatest size of a page. -/
def maxPageSize : Nat := 1000

/-- The notation of a text, or of its absence. -/
def optionLiteral : Option String → List Char
  | some s => quoted s.toList
  | none => Value.null.literal

/-- The wording of a failure, where it has one of its own. -/
def message? : Fault → Option String
  | pageBelowOne page => some (String.ofList ("page must be >= 1, got ".toList ++ integerText page))
  | pageSizeOutOfRange size =>
    some (String.ofList ("page_size must be between ".toList ++ integerText minPageSize ++
      " and ".toList ++ integerText maxPageSize ++ ", got ".toList ++ integerText size))
  | columnNotSearchable column =>
    some (String.ofList ("Column ".toList ++ quoted column.toList ++ " is not searchable".toList))
  | unsupportedJoin operator =>
    some (String.ofList ("Unsupported join operator ".toList ++ optionLiteral operator))
  | notBoolean value =>
    some (String.ofList ("Cannot interpret value as boolean: ".toList ++ value.literal))
  | notInteger value => some (String.ofList ("Expected an integer, got ".toList ++ value.literal))
  | notTimestamp value =>
    some (String.ofList ("Cannot interpret value as timestamptz: ".toList ++ value.literal))
  | invalidSearchConfiguration value =>
    some (String.ofList ("Invalid text search configuration ".toList ++ value.literal))
  | raised _ message => some message
  | _ => none

end Fault

end AuditTrail
