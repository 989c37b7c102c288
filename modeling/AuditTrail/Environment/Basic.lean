/-!
Environment settings: texts by name.
-/

namespace AuditTrail

/-- Settings by name, the first of a name counting. -/
abbrev Environment := List (String × String)

namespace Environment

/-- The value of a setting. -/
def get? (environment : Environment) (name : String) : Option String := environment.lookup name

end Environment

end AuditTrail
