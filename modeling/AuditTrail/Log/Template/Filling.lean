import AuditTrail.Log.Template.Reader
import AuditTrail.Log.Template.Written
/-!
Messages: templates whose marks are replaced by values.
-/

namespace AuditTrail.Log

/-- The values that are left for the marks of a template. -/
structure Supply where
  /-- The entries that marks may name. -/
  entries : Option (List (String × Value))
  /-- The values that marks without a name take in turn. -/
  next : List Value

namespace Supply

/-- The supply of some values: the entries of a single map that has any can be named. -/
def ofValues : List Value → Supply
  | [.map (entry :: entries)] => ⟨some (entry :: entries), [.map (entry :: entries)]⟩
  | values => ⟨none, values⟩

/-- Whether nothing is left that had to be used: values count, but entries do not. -/
def isSpent (supply : Supply) : Bool := supply.entries.isSome || supply.next.isEmpty

end Supply

/-- Writing with values that are used up on the way; it may fail. -/
abbrev Filling := StateT Supply Option

/-- The next value. -/
def takeValue : Filling Value := do
  let supply ← get
  match supply.next with
  | value :: next =>
    set { supply with next := next }
    pure value
  | [] => failure

/-- Makes the entry of a name the next value, and the last one. -/
def chooseEntry (name : String) : Filling Unit := do
  let supply ← get
  match supply.entries.bind (·.lookup name) with
  | some value => set { supply with next := [value] }
  | none => failure

/-- The greatest number that a mark may ask for. -/
def maxAmount : Nat := Nat.pow 2 31 - 1

/-- The number that a mark asks for. -/
def amountValue (amount : Amount) : Filling Int := do
  let n ← match amount with
    | .fixed n => pure (n : Int)
    | .taken => StateT.lift (wholeNumber? (← takeValue))
  if n.natAbs ≤ maxAmount then pure n else failure

/-- What a mark writes. -/
def Mark.fill (mark : Mark) : Filling (List Char) := do
  mark.name.forM chooseEntry
  let width ← mark.width.mapM amountValue
  let precision ← mark.precision.mapM amountValue
  let value ← takeValue
  let written ← StateT.lift (mark.form.write? mark.flags (precision.map Int.toNat) value)
  pure (written.padded mark.flags (width.getD 0))

/-- What a piece of a template writes. -/
def Piece.fill : Piece → Filling (List Char)
  | .plain text => pure text
  | .mark m => m.fill

/-- What a template writes with values; there is nothing unless the values fit the marks. -/
def Template.fill? (template : Template) (values : List Value) : Option (List Char) := do
  let (texts, supply) ← (template.mapM Piece.fill).run (.ofValues values)
  if supply.isSpent then pure texts.flatten else none

/-- The message that a text says with values; without values it is the text itself. -/
def message? (text : List Char) (values : List Value) : Option (List Char) :=
  if values.isEmpty then some text else (Template.read? text).bind (·.fill? values)

end AuditTrail.Log
