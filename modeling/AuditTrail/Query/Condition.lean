import AuditTrail.Column
import AuditTrail.Query.Token
/-!
Search terms with columns, and the conditions that a list of tokens asks for.
-/

namespace AuditTrail.Query

open Text

/-- A term that a column, or any free-text column, has to contain. -/
structure Condition where
  /-- The name of the column, if one is named. -/
  column : Option (List Char)
  /-- The text to be contained. -/
  term : List Char
  /-- The word that joins the condition to the one before it. -/
  operator : Option (List Char)
deriving DecidableEq, Repr

/-- The column name and the value of a token with a colon inside. -/
def splitColumn? (token : List Char) : Option (List Char × List Char) :=
  let name := token.takeWhile (· != ':')
  match token.dropWhile (· != ':') with
  | _ :: value => if name.isEmpty || value.isEmpty then none else some (name, unquote value)
  | [] => none

/-- What a token means where columns may be named. -/
inductive Part where
  /-- Nothing is left of the token. -/
  | nothing
  /-- A joining keyword. -/
  | joiner (joiner : Joiner)
  /-- A term for a column. -/
  | named (column : Column) (term : List Char)
  /-- A term for a column that does not exist. -/
  | unknown (name : List Char)
  /-- A term without a column. -/
  | free (term : List Char)
deriving DecidableEq, Repr

/-- The meaning of a token. -/
def Part.ofToken (raw : List Char) : Part :=
  let token := trim raw
  if token.isEmpty then .nothing
  else match Joiner.ofWord? token with
    | some found => .joiner found
    | none =>
      match splitColumn? token with
      | some (name, term) =>
        match Column.ofName? name with
        | some column => .named column term
        | none => .unknown name
      | none =>
        let term := unquote token
        if term.isEmpty then .nothing else .free term

/-- The conditions of some parts when a joiner is pending. A condition uses it up; terms for
unknown columns leave it as it is. -/
def conditionsAfter (pending : Joiner) : List Part → List Condition
  | [] => []
  | .nothing :: rest => conditionsAfter pending rest
  | .unknown _ :: rest => conditionsAfter pending rest
  | .joiner joiner :: rest => conditionsAfter joiner rest
  | .named column term :: rest =>
    ⟨some column.name.toList, term, some pending.word⟩ :: conditionsAfter .and rest
  | .free term :: rest => ⟨none, term, some pending.word⟩ :: conditionsAfter .and rest

/-- The conditions of a list of tokens. -/
def conditions (tokens : List (List Char)) : List Condition :=
  conditionsAfter .and (tokens.map Part.ofToken)

/-- The names of the unknown columns in a list of tokens, in their order. -/
def unknownColumns (tokens : List (List Char)) : List (List Char) :=
  (tokens.map Part.ofToken).filterMap fun part =>
    match part with
    | .unknown name => some name
    | _ => none

end AuditTrail.Query
