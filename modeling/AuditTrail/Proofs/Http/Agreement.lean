import AuditTrail.Proofs.Http.Failure
import AuditTrail.Proofs.Http.Startup
import AuditTrail.Proofs.Service.Alike
import AuditTrail.Proofs.Service.Selection

/-!
# Blank searches and listings

A blank search and a listing that ask for the same page are answered alike.  They read their
parameters one by one in the same order, and a blank search runs as a listing.  Their answers part
only in the words for a page that could not be had.
-/

namespace AuditTrail

namespace Service.Action

end Service.Action

namespace Http

open Text Service Action

namespace AskTheSame

variable {posted listed : Request} {entries : List (String × Value)}

end AskTheSame

namespace Application

variable {application : Application} {request : Request}

variable {posted listed : Request} {entries : List (String × Value)}

section Serving

variable {clock : Clock} {state : State} {size : Int} {query : String} {page : PageRequest}
  {sort : Option String} {descending : Bool} {logs more : List LogEntry}

end Serving

end Application

end Http

end AuditTrail
