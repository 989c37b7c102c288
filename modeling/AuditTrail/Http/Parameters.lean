import AuditTrail.Http.Message
import AuditTrail.Http.Rejection
import AuditTrail.Service.Search
/-!
The parameters of searches and listings. Parameters are read one after the other, and the first one
that is not acceptable decides the complaint.
-/

namespace AuditTrail.Http

open Service

/-- Why parameters cannot be read. -/
inductive Refusal where
  /-- The caller has to be told. -/
  | complaint (complaint : Complaint)
  /-- Reading them failed. -/
  | fault (fault : Fault)

/-- The result, or a complaint in place of a value that is not acceptable. -/
def orComplain {α : Type} (complaint : Complaint) : Except Fault α → Except Refusal α
  | .ok a => .ok a
  | .error fault =>
    if fault.kind = .value then .error (.complaint complaint) else .error (.fault fault)

/-- A whole number, with a number in place of none. -/
def readNumber (name : String) (default : Int) (value : Value) : Except Refusal Int := do
  let n ← orComplain (.notInteger name) value.toInt?
  pure (n.getD default)

/-- A point in time, if there is one. -/
def readDate (freeForm : FreeForm) (zone : Zone) (name : String) (value : Value) :
    Except Refusal (Option Moment) :=
  orComplain (.notDate name) (value.toMoment? freeForm zone)

/-- A text, if there is one; an empty text is none. -/
def readSort : Value → Except Refusal (Option String)
  | .null => .ok none
  | .text s => .ok (if s.isEmpty then none else some s)
  | _ => .error (.complaint .sortNotText)

/-- A page number and size that are in range. -/
def checkWindow (page size : Int) : Except Refusal Unit :=
  if page < 1 then .error (.complaint .pageTooSmall)
  else if size < Fault.minPageSize ∨ (Fault.maxPageSize : Int) < size then
    .error (.complaint .sizeOutOfRange)
  else .ok ()

/-- The parameters of a search. -/
structure SearchParameters where
  /-- The search text. -/
  query : String
  /-- What is asked for beside it. -/
  page : PageRequest

namespace SearchParameters

/-- The search text among the entries of a body. -/
def readQuery : Value → Except Refusal String
  | .text s => .ok s
  | _ => .error (.complaint .noQuery)

/-- The parameters among the entries of a body. -/
def readEntries (freeForm : FreeForm) (zone : Zone) (settings : Value) :
    Except Refusal SearchParameters := do
  let query ← readQuery (Settings.entry settings "query")
  let page ← readNumber "from" 1 (Settings.entry settings "from")
  let size ← readNumber "size" Settings.defaultPageSize (Settings.entry settings "size")
  checkWindow page size
  let sort ← readSort (Settings.entry settings "sort")
  let descending ←
    orComplain .directionNotBoolean (Settings.entry settings "sortDescending").toBool?
  let fromDate ← readDate freeForm zone "fromDate" (Settings.entry settings "fromDate")
  let toDate ← readDate freeForm zone "toDate" (Settings.entry settings "toDate")
  pure ⟨query, page, size, ⟨fromDate, toDate⟩, sort, descending.getD true⟩

/-- The parameters that a body holds. -/
def read (freeForm : FreeForm) (zone : Zone) : Option Value → Except Refusal SearchParameters
  | some (.map entries) => readEntries freeForm zone (.map entries)
  | _ => .error (.complaint .bodyNotMap)

end SearchParameters

/-- A field of a target's query as a value. -/
def fieldValue (target : Target) (name : String) : Value :=
  match target.field? name with
  | some text => .text (String.ofList text)
  | none => .null

/-- The parameters of a listing, with a page size in place of none. -/
def readListing (freeForm : FreeForm) (zone : Zone) (defaultSize : Int) (target : Target) :
    Except Refusal PageRequest := do
  let page ← readNumber "from" 1 (fieldValue target "from")
  let size ← readNumber "size" defaultSize (fieldValue target "size")
  checkWindow page size
  let fromDate ← readDate freeForm zone "fromDate" (fieldValue target "fromDate")
  let toDate ← readDate freeForm zone "toDate" (fieldValue target "toDate")
  pure ⟨page, size, ⟨fromDate, toDate⟩, none, true⟩

end AuditTrail.Http
