import AuditTrail.Calendar.FreeForm.Reader
import AuditTrail.Coercion
/-!
A reader of dates in free form for a given day, from which whatever a text leaves out is taken. The
names of zones other than universal time say nothing to it.
-/

namespace AuditTrail.FreeForm

/-- The zone of an offset in seconds. -/
def zoneOf (seconds : Int) : Zone :=
  if seconds = 0 then .utc else .fixed (seconds * microsecondsPerSecond)

/-- The reader on a day. -/
def onDay (today : Date) : FreeForm := fun text =>
  match read? today text with
  | .ok reading => .ok { reading.moment with zone := reading.offset.map zoneOf }
  | .error .unreadable => .error (.notTimestamp (.text (String.ofList text)))
  | .error .imprecise => .error .impreciseClock

end AuditTrail.FreeForm
