import AuditTrail.Environment.Basic
import AuditTrail.Fault
import AuditTrail.Text.Case
/-!
Weights of log entries, and the threshold below which entries are dropped. A threshold can be
given by name or by number, and what means neither is the usual one.
-/

namespace AuditTrail.Log

open Text

/-- A threshold. A truth value counts as one or zero, and is kept as it is. -/
inductive Threshold where
  | number (n : Int)
  | flag (b : Bool)
deriving DecidableEq, Repr

/-- The weights that have names. The first name of a weight is the one that entries show. -/
def namedWeights : List (String × Int) :=
  [("CRITICAL", 50), ("FATAL", 50), ("ERROR", 40), ("WARNING", 30), ("WARN", 30), ("INFO", 20),
    ("DEBUG", 10), ("NOTSET", 0)]

/-- The weight of a name in capital letters. -/
def weightOf? (name : List Char) : Option Int := namedWeights.lookup (String.ofList name)

/-- The name of a weight, if it has one. -/
def nameOf? (weight : Int) : Option String :=
  (namedWeights.find? fun entry => entry.2 == weight).map (·.1)

/-- A weight without a name. -/
def unnamed (number : List Char) : List Char := "Level ".toList ++ number

/-- The text of a weight. -/
def weightText (weight : Int) : List Char :=
  match nameOf? weight with
  | some name => name.toList
  | none => unnamed (integerText weight)

namespace Threshold

/-- The usual threshold. -/
def usual : Threshold := number 20

/-- The weight that entries must reach. -/
def weight : Threshold → Int
  | number n => n
  | flag true => 1
  | flag false => 0

/-- The text of a threshold. -/
def text : Threshold → List Char
  | number n => weightText n
  | flag b =>
    match nameOf? (weight (flag b)) with
    | some name => name.toList
    | none => unnamed (Value.bool b).literal

/-- The threshold that a text means. It fails for digits that are no decimal digits, and for too
many of them. -/
def ofText (text : List Char) : Except Fault Threshold :=
  let word := trim text
  if !word.isEmpty && word.all isDigit then
    match readInteger? word with
    | some n => .ok (number n)
    | none => .error (.unconvertible .invalid)
  else .ok (((weightOf? (upper word)).map number).getD usual)

/-- The threshold that the environment settings ask for. -/
def ofEnvironment (environment : Environment) : Except Fault Threshold :=
  match environment.get? "LOG_LEVEL" with
  | some s => if s.isEmpty then .ok usual else ofText s.toList
  | none => .ok usual

/-- The threshold that a value means; where there is none, the environment settings decide. -/
def read (environment : Environment) : Value → Except Fault Threshold
  | .null => ofEnvironment environment
  | .bool b => .ok (flag b)
  | .int n => .ok (number n)
  | value => ofText value.display

end Threshold

end AuditTrail.Log
