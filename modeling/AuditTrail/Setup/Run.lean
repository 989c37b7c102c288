import AuditTrail.Log.Threshold
import AuditTrail.Service.Connection
import AuditTrail.Service.Schema
import AuditTrail.Setup.Arguments
import AuditTrail.Setup.Layout
/-!
Setting up the table as the command line asks for. The engine is given up in any case once it is
there.
-/

namespace AuditTrail.Setup

open Service Action

/-- What a run of the program leaves. -/
structure Report where
  /-- The number that the program ends with. -/
  status : Nat
  /-- What it prints. -/
  output : List Char
  /-- What it says about its use, if the run ends there. -/
  guidance : Option (List Char)
deriving DecidableEq, Repr

/-- Changes the table as an order says. -/
def change (drop describe : Bool) : Action Unit := do
  if !describe then
    if drop then
      dropTable
    createTable .null

/-- Carries out an order to make or describe the table, which then has a layout. -/
def carryOut (drop describe : Bool) (layout : Option Layout) : Action Report := do
  let _ ← ofExcept (Log.Threshold.ofEnvironment (← get).environment)
  let _ ← engine
  let outcome ← attempt (change drop describe)
  dispose
  ofExcept outcome
  pure ⟨0, Setup.describe layout, none⟩

/-- Runs the program. -/
def run (arguments : List (List Char)) (layout : Option Layout) : Action Report :=
  match Order.read arguments with
  | .error complaint => pure ⟨2, [], some complaint.report⟩
  | .ok .help => pure ⟨0, helpText, some []⟩
  | .ok (.run drop describe) => carryOut drop describe layout

end AuditTrail.Setup
