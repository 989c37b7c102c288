import AuditTrail.SearchPath
import Mathlib.Data.List.Nodup

/-!
# Extending the search path

Directories join the search path one after the other, each unless it is listed by then.  What was
listed before stays together and in order, and whatever is wanted is listed in the end, so that
there is nothing left to add.
-/

namespace AuditTrail

variable {atFront : Bool} {listed : List (List Char)} {directory : Path} {wanted : List Path}

namespace Places

variable (places : Places) (location : Option (List Char))

end Places

end AuditTrail
