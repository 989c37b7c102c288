import AuditTrail.Schema.Definition
import AuditTrail.Service.Settings
/-!
Making and removing the table. The text search configuration is the one that searches use, unless
another one is given.
-/

namespace AuditTrail.Service.Action

/-- The expression of the search vector under a text search configuration, or under that of the file
where none is given. -/
def searchVector (configuration : Value) : Action (List Char) := do
  if configuration.isFalsy then
    ofExcept (Schema.searchVector (.text (← searchConfiguration .table .null)))
  else ofExcept (Schema.searchVector configuration)

/-- Runs a statement that has no answer. -/
def define (text : List Char) : Action Unit :=
  note fun journal => { journal with statements := journal.statements ++ [⟨text, []⟩] }

/-- Makes the table and its indexes. -/
def createTable (configuration : Value) : Action Unit := do
  let vector ← searchVector configuration
  log .info .schema ("Creating table ".toList ++ Schema.tableName.toList ++
    " (if missing) search_vector=".toList ++ vector)
  (Schema.table vector).definitions.forM define

/-- Removes the table. -/
def dropTable : Action Unit := do
  log .warning .schema ("Dropping table ".toList ++ Schema.tableName.toList)
  let _ ← searchVector .null
  define Schema.removal

end AuditTrail.Service.Action
