import AuditTrail.Proofs.Query.Runs
import AuditTrail.Proofs.Sql.Token
import AuditTrail.Sql.Where

/-!
# Formulas of statements and their truth

Tokens are first put together to the items of a formula: comparisons, joiners and parentheses.
AND binds tighter than OR, so the factors of an alternative are collected until OR or a closing
parenthesis ends it.  Truth has three values, as a missing cell makes a comparison unknown.
-/

namespace AuditTrail.Sql

open Text Query

/-- A comparison of a row with parameters. -/
inductive Atom where
  /-- A cell as text, compared with a parameter. -/
  | text (column : List Char) (comparator : Comparator) (parameter : List Char)
  | atLeast (column parameter : List Char)
  | atMost (column parameter : List Char)
  | between (column lower upper : List Char)
  /-- A text search in a column of lexemes. -/
  | search (column configuration query : List Char)
deriving DecidableEq, Repr

/-- A formula. -/
inductive Formula where
  | atom (atom : Atom)
  | and (left right : Formula)
  | or (left right : Formula)
deriving DecidableEq, Repr

/-- What a formula is written with. -/
inductive Item where
  | operand (atom : Atom)
  | joiner (joiner : Joiner)
  | opening
  | closing
deriving DecidableEq, Repr

/-- The comparator that a token is. -/
def Token.comparator? : Token → Option Comparator
  | .equals => some .equal
  | .likeWord => some .like
  | .ilikeWord => some .ilike
  | _ => none

/-- The items that some tokens write.  The AND behind BETWEEN is part of the comparison. -/
def items? : List Token → Option (List Item)
  | [] => some []
  | .opening :: rest => (items? rest).map (.opening :: ·)
  | .closing :: rest => (items? rest).map (.closing :: ·)
  | .andWord :: rest => (items? rest).map (.joiner .and :: ·)
  | .orWord :: rest => (items? rest).map (.joiner .or :: ·)
  | .word column :: .conversion type :: sign :: .parameter name :: rest =>
      if type == "text".toList then
        sign.comparator?.bind fun comparator =>
          (items? rest).map (.operand (.text column comparator name) :: ·)
      else none
  | .word column :: .atLeast :: .parameter name :: rest =>
      (items? rest).map (.operand (.atLeast column name) :: ·)
  | .word column :: .atMost :: .parameter name :: rest =>
      (items? rest).map (.operand (.atMost column name) :: ·)
  | .word column :: .betweenWord :: .parameter lower :: .andWord :: .parameter upper :: rest =>
      (items? rest).map (.operand (.between column lower upper) :: ·)
  | .word column :: .searches :: .word function :: .opening :: .castWord :: .opening ::
      .parameter configuration :: .asWord :: .word type :: .closing :: .comma ::
      .parameter query :: .closing :: rest =>
      if function == "to_tsquery".toList && type == "regconfig".toList then
        (items? rest).map (.operand (.search column configuration query) :: ·)
      else none
  | _ => none

/-- What has been read between two parentheses: the finished alternatives, and the factors of the
alternative that is still open. -/
structure Level where
  alternatives : Option Formula
  factors : Option Formula
deriving DecidableEq, Repr

namespace Level

/-- Nothing has been read. -/
def empty : Level := ⟨none, none⟩

/-- Takes up a factor of the open alternative. -/
def addFactor (level : Level) (factor : Formula) : Level :=
  { level with factors := some (match level.factors with
    | some before => .and before factor
    | none => factor) }

/-- Ends the open alternative. -/
def endAlternative (level : Level) : Level where
  alternatives := match level.alternatives, level.factors with
    | some before, some last => some (.or before last)
    | none, last => last
    | before, none => before
  factors := none

/-- The formula of a level that is read to its end. -/
def formula? (level : Level) : Option Formula := level.endAlternative.alternatives

end Level

/-- What has been read of a formula. -/
structure Reader where
  /-- Set when an operand has to follow. -/
  expectant : Bool
  /-- The innermost level. -/
  level : Level
  /-- The levels around it, the innermost first. -/
  outer : List Level
deriving DecidableEq, Repr

namespace Reader

/-- A reader before the first item. -/
def start : Reader := ⟨true, .empty, []⟩

/-- Takes one item. -/
def step (reader : Reader) (item : Item) : Option Reader :=
  match item, reader with
  | .operand atom, ⟨true, level, outer⟩ => some ⟨false, level.addFactor (.atom atom), outer⟩
  | .opening, ⟨true, level, outer⟩ => some ⟨true, .empty, level :: outer⟩
  | .closing, ⟨false, level, before :: outer⟩ =>
      level.formula?.map fun formula => ⟨false, before.addFactor formula, outer⟩
  | .joiner .and, ⟨false, level, outer⟩ => some ⟨true, level, outer⟩
  | .joiner .or, ⟨false, level, outer⟩ => some ⟨true, level.endAlternative, outer⟩
  | _, _ => none

/-- The formula of a reader that has come to the end. -/
def formula? (reader : Reader) : Option Formula :=
  match reader with
  | ⟨false, level, []⟩ => level.formula?
  | _ => none

end Reader

/-- The formula that some tokens write. -/
def Formula.ofTokens? (tokens : List Token) : Option Formula := do
  let items ← items? tokens
  let reader ← items.foldlM Reader.step .start
  reader.formula?

/-- The conjunction of two truth values, of which each may be unknown. -/
def kleeneAnd : Option Bool → Option Bool → Option Bool
  | some false, _ => some false
  | _, some false => some false
  | some true, some true => some true
  | _, _ => none

/-- The disjunction of two truth values, of which each may be unknown. -/
def kleeneOr : Option Bool → Option Bool → Option Bool
  | some true, _ => some true
  | _, some true => some true
  | some false, some false => some false
  | _, _ => none

/-- How a database compares its rows. -/
structure Database (ρ : Type) where
  /-- The text of a cell; none for a missing one. -/
  text : ρ → Column → Option (List Char)
  /-- The point in time of a cell, on any scale. -/
  instant : ρ → Column → Option Int
  /-- The point in time of a bound moment, on the same scale. -/
  instantOf : Moment → Int
  /-- Whether a text fits a pattern. -/
  like : List Char → List Char → Bool
  /-- Whether a text fits a pattern when letter case is ignored. -/
  ilike : List Char → List Char → Bool
  /-- Whether the lexemes of a row meet a query under a configuration. -/
  found : ρ → (configuration query : String) → Option Bool

namespace Database

variable {ρ : Type} (database : Database ρ)

/-- Whether a text compares with an operand. -/
def compares : Comparator → List Char → List Char → Bool
  | .equal => fun text operand => text == operand
  | .like => database.like
  | .ilike => database.ilike

/-- A cell as text, compared with an operand. -/
def textTruth (row : ρ) (column : Column) (comparator : Comparator) (operand : List Char) :
    Option Bool :=
  (database.text row column).map fun text => database.compares comparator text operand

/-- The truth of an order of two points in time. -/
def instantTruth (row : ρ) (column : Column) (moment : Moment) (order : Int → Int → Bool) :
    Option Bool :=
  (database.instant row column).map fun instant => order instant (database.instantOf moment)

/-- A bound moment. -/
def momentOf? (bindings : Bindings) (parameter : List Char) : Option Moment :=
  match bindings.lookup (String.ofList parameter) with
  | some (.moment moment) => some moment
  | _ => none

/-- A bound text. -/
def textOf? (bindings : Bindings) (parameter : List Char) : Option String :=
  match bindings.lookup (String.ofList parameter) with
  | some (.text text) => some text
  | _ => none

/-- The truth of a comparison for a row. -/
def atomTruth (row : ρ) (bindings : Bindings) : Atom → Option Bool
  | .text column comparator parameter => do
      let column ← Column.ofExactName? column
      let operand ← textOf? bindings parameter
      database.textTruth row column comparator operand.toList
  | .atLeast column parameter => do
      let column ← Column.ofExactName? column
      let moment ← momentOf? bindings parameter
      database.instantTruth row column moment fun instant bound => bound ≤ instant
  | .atMost column parameter => do
      let column ← Column.ofExactName? column
      let moment ← momentOf? bindings parameter
      database.instantTruth row column moment fun instant bound => instant ≤ bound
  | .between column lower upper => do
      let column ← Column.ofExactName? column
      let lower ← momentOf? bindings lower
      let upper ← momentOf? bindings upper
      kleeneAnd (database.instantTruth row column lower fun instant bound => bound ≤ instant)
        (database.instantTruth row column upper fun instant bound => instant ≤ bound)
  | .search column configuration query => do
      let configuration ← textOf? bindings configuration
      let query ← textOf? bindings query
      if column == "search_vector".toList then database.found row configuration query else none

/-- The truth of a formula for a row. -/
def truth (row : ρ) (bindings : Bindings) : Formula → Option Bool
  | .atom atom => database.atomTruth row bindings atom
  | .and left right => kleeneAnd (truth row bindings left) (truth row bindings right)
  | .or left right => kleeneOr (truth row bindings left) (truth row bindings right)

/-- Whether a row meets a formula: unknown truth is not enough. -/
def holds (row : ρ) (bindings : Bindings) (formula : Formula) : Bool :=
  database.truth row bindings formula == some true

theorem holds_and (row : ρ) (bindings : Bindings) (left right : Formula) :
    database.holds row bindings (.and left right) =
      (database.holds row bindings left && database.holds row bindings right) := by
  simp only [holds, truth]
  rcases database.truth row bindings left with _ | _ | _ <;>
    rcases database.truth row bindings right with _ | _ | _ <;> rfl

theorem holds_or (row : ρ) (bindings : Bindings) (left right : Formula) :
    database.holds row bindings (.or left right) =
      (database.holds row bindings left || database.holds row bindings right) := by
  simp only [holds, truth]
  rcases database.truth row bindings left with _ | _ | _ <;>
    rcases database.truth row bindings right with _ | _ | _ <;> rfl

end Database

end AuditTrail.Sql
