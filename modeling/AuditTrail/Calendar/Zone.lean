import AuditTrail.Calendar.Date
/-!
Time zones: coordinated universal time, fixed offsets, and the regions of a database that is given.
Local times are counted in microseconds from the first midnight of the year 1.
-/

namespace AuditTrail

/-- The microseconds of a second. -/
def microsecondsPerSecond : Nat := 1000000

/-- The microseconds of a day. -/
def microsecondsPerDay : Nat := 86400 * microsecondsPerSecond

/-- A region of one civil time. -/
structure Region where
  /-- The name. -/
  name : String
  /-- The microseconds by which a local time is ahead of universal time.  Of a local time that the
  clocks show twice, the flag tells the second. -/
  offset : Nat → Bool → Int
deriving Inhabited

/-- The region whose civil time is universal time. -/
def Region.utc : Region := ⟨"UTC", fun _ _ => 0⟩

/-- A database of regions. -/
structure Regions where
  /-- The region of a name; letter case matters. -/
  find? : String → Option Region
  find?_utc : find? Region.utc.name = some .utc

/-- The database that has universal time alone. -/
def Regions.utcOnly : Regions where
  find? name := if name = Region.utc.name then some .utc else none
  find?_utc := if_pos rfl

/-- A time zone. -/
inductive Zone where
  /-- Coordinated universal time. -/
  | utc
  /-- A fixed offset from universal time, in microseconds. -/
  | fixed (microseconds : Int)
  /-- The civil time of a region. -/
  | region (region : Region)
deriving Inhabited

namespace Zone

/-- The microseconds by which a local time is ahead of universal time. -/
def offset (zone : Zone) (wall : Nat) (fold : Bool) : Int :=
  match zone with
  | utc => 0
  | fixed microseconds => microseconds
  | region r => r.offset wall fold

/-- An offset is shorter than a day. -/
def isOffset (microseconds : Int) : Bool := microseconds.natAbs < microsecondsPerDay

end Zone

end AuditTrail
