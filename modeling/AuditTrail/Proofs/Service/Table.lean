import AuditTrail.Proofs.Search.Slices
import AuditTrail.Proofs.Service.Search
import AuditTrail.Proofs.Sql.Meaning

/-!
# Answers from a table

A store that keeps the audit log in a table counts the rows that a statement selects, and gives the
slice for its window of some order of them that agrees with the sort keys.  Which order that is
among rows with equal keys may change from statement to statement.
-/

namespace AuditTrail.Service

open Text Query Sql Search

/-- A table of rows, and what a database makes of them. -/
structure Table (ρ : Type) where
  /-- How the rows compare with parameters. -/
  database : Database ρ
  /-- The place of a cell among the values of its column, on any scale. -/
  place : ρ → Column → Int
  /-- How well a row meets a query under a configuration, on any scale. -/
  rank : ρ → (configuration query : String) → Int
  /-- The rows. -/
  rows : List ρ
  /-- The values of a row in the answer to a statement. -/
  cells : Statement → ρ → Row
  /-- How many levels of nested metadata there is room to read in the rows. -/
  room : Nat

namespace Table

variable {ρ : Type} (table : Table ρ)

/-- The rows that a statement selects. -/
def matching (statement : Statement) : List ρ :=
  table.rows.filter fun row => table.database.admits row statement == some true

/-- What a row is sorted by under a name. -/
def sortValue (bindings : Bindings) (name : List Char) (row : ρ) : Int :=
  if name == "rank".toList then
    match Database.textOf? bindings "ts_config".toList,
        Database.textOf? bindings "query".toList with
    | some configuration, some query => table.rank row configuration query
    | _, _ => 0
  else ((Column.ofExactName? name).map (table.place row)).getD 0

/-- Whether sort keys let a row stand before another one. -/
def MayPrecede (bindings : Bindings) : List (List Char × Bool) → ρ → ρ → Prop
  | [], _, _ => True
  | (name, descending) :: rest, first, second =>
    let before := table.sortValue bindings name (if descending then second else first)
    let after := table.sortValue bindings name (if descending then first else second)
    before < after ∨ before = after ∧ MayPrecede bindings rest first second

/-- A number that is bound to a parameter. -/
def numberOf? (bindings : Bindings) (parameter : List Char) : Option Nat :=
  match bindings.lookup (String.ofList parameter) with
  | some (.int number) => some number.toNat
  | _ => none

/-- The slice of an order that a window cuts out. -/
def slice (bindings : Bindings) (window : Option (List Char × List Char)) (order : List ρ) :
    List ρ :=
  match window with
  | none => order
  | some (limit, offset) =>
    match numberOf? bindings limit, numberOf? bindings offset with
    | some limit, some offset => (order.drop offset).take limit
    | _, _ => order

/-- An answer from the table to a selection, for an order of the rows that it selects. -/
structure Permits (statement : Statement) (reading : Reading) (order : List ρ)
    (answer : Answer) : Prop where
  perm : order.Perm (table.matching statement)
  sorted : order.Pairwise (table.MayPrecede statement.bindings reading.order)
  scalar : reading.selected = tokens selectCount →
    answer.scalar = .int (table.matching statement).length
  rows : reading.selected ≠ tokens selectCount →
    answer.rows = (slice statement.bindings reading.window order).map (table.cells statement)
  room : answer.room = table.room

/-- A store that answers every selection from the table, where each statement has an order of its
own. -/
def Serves (order : Nat → Statement → List ρ) (store : Store) : Prop :=
  ∀ number statement reading, Reading.ofText? statement.text = some reading →
    reading.table = tableName → ∃ answer, store number statement = .ok answer ∧
      table.Permits statement reading (order number statement) answer

/-- The store that keeps a table and goes through its rows in given orders. -/
def store (order : Nat → Statement → List ρ) : Store := fun number statement =>
  match Reading.ofText? statement.text with
  | none => .ok ⟨.null, [], 0⟩
  | some reading => .ok {
      scalar := .int (table.matching statement).length
      rows := (slice statement.bindings reading.window (order number statement)).map
        (table.cells statement)
      room := table.room }

/-- The store of a table answers from it when its orders agree with all sort keys. -/
theorem serves_store {order : Nat → Statement → List ρ}
    (perm : ∀ number statement, (order number statement).Perm (table.matching statement))
    (sorted : ∀ number statement keys,
      (order number statement).Pairwise (table.MayPrecede statement.bindings keys)) :
    table.Serves order (table.store order) := by
  intro number statement reading read _
  refine ⟨_, by rw [store, read], perm number statement, sorted number statement _,
    fun _ => rfl, fun _ => rfl, rfl⟩

end Table

/-- Whether a search finds a row. -/
def Strategy.finds {ρ : Type} (database : Database ρ) (configuration : String)
    (range : DateRange) (row : ρ) : Strategy → Bool
  | .listing => database.within row range
  | .columns conditions =>
    anyRun Condition.joiner (database.meets row) conditions && database.within row range
  | .fullText expression =>
    database.found row configuration (String.ofList expression) == some true &&
      database.within row range
  | .nothing => false

/-- What a row is sorted by in a search: rows with smaller numbers come first. -/
def Strategy.standing {ρ : Type} (table : Table ρ) (configuration : String)
    (request : PageRequest) (strategy : Strategy) (row : ρ) : Int :=
  match strategy.sortKey request, strategy with
  | .column column descending, _ =>
    if descending then -table.place row column else table.place row column
  | .rank, .fullText expression => -table.rank row configuration (String.ofList expression)
  | .rank, _ => 0

/-- A plan selects the rows that the search finds. -/
structure Plan.Finds {ρ : Type} (plan : Plan) (database : Database ρ) (range : DateRange)
    (found : ρ → Bool) : Prop where
  clauses : ∃ front own truth, plan.clauses = front ++ range.clause?.toList ∧
    plan.bindings = own ++ range.bindings ∧ Means database front own truth ∧
    ∀ row, found row = (truth row && database.within row range)
  plain : ∀ token ∈ tokens plan.select, token ≠ .fromWord
  apart : tokens plan.select ≠ tokens selectCount

theorem Strategy.finds_of_plan {ρ : Type} (database : Database ρ) {configuration : String}
    {request : PageRequest} {strategy : Strategy} {plan : Plan} (filled : strategy ≠ .columns [])
    (planned : strategy.plan (.ok configuration) request = .ok (some plan)) :
    plan.Finds database request.range
      fun row => strategy.finds database configuration request.range row := by
  have columnsApart : tokens selectColumns ≠ tokens selectCount := by decide +kernel
  have rankedApart : tokens selectRanked ≠ tokens selectCount := by decide +kernel
  cases strategy with
  | listing =>
      obtain rfl := Option.some.inj (Except.ok.inj planned)
      exact ⟨⟨[], [], _, rfl, rfl, .everything database, fun _ => rfl⟩, plain_selectColumns,
        columnsApart⟩
  | columns conditions =>
      cases conditions with
      | nil => exact absurd rfl filled
      | cons first rest =>
          obtain ⟨filter, bindings, built, rfl⟩ := columns_of_plan planned
          exact ⟨⟨[_], _, _, rfl, rfl, .filter database built, fun _ => rfl⟩,
            plain_selectColumns, columnsApart⟩
  | fullText expression =>
      obtain rfl := Option.some.inj (Except.ok.inj planned)
      exact ⟨⟨[matchClause], _, _, rfl, rfl, .search database _ _, fun _ => rfl⟩,
        plain_selectRanked, rankedApart⟩
  | nothing => cases planned

variable {ρ : Type}

theorem Table.matching_eq (table : Table ρ) {statement : Statement} {found : ρ → Bool}
    (admits : ∀ row, table.database.admits row statement = some (found row)) :
    table.matching statement = table.rows.filter found := by
  apply List.filter_congr
  intro row _
  rw [admits]
  cases found row <;> rfl

/-- What is read of the statement that counts. -/
theorem Plan.Finds.count {plan : Plan} {database : Database ρ} {range : DateRange}
    {found : ρ → Bool} (finds : plan.Finds database range found) :
    ∃ reading, Reading.ofText? plan.count.text = some reading ∧ reading.table = tableName ∧
      reading.selected = tokens selectCount ∧
      ∀ row, database.admits row plan.count = some (found row) := by
  obtain ⟨front, own, truth, clauses, bindings, means, same⟩ := finds.clauses
  obtain ⟨condition, read, _⟩ := means.reading range selectCount plain_selectCount none false []
    (List.nil_sublist _)
  have admits := means.admits range selectCount plain_selectCount none false []
    (List.nil_sublist _)
  rw [← clauses, List.append_nil, ← bindings] at admits
  rw [← clauses] at read
  exact ⟨_, read, rfl, rfl, fun row => (admits row).trans (congrArg some (same row).symm)⟩

/-- What is read of the statement that gives a page. -/
theorem Plan.Finds.page {plan : Plan} {database : Database ρ} {range : DateRange}
    {found : ρ → Bool} (finds : plan.Finds database range found) (window : Window) :
    ∃ reading, Reading.ofText? (plan.page window).text = some reading ∧
      reading.table = tableName ∧ reading.selected ≠ tokens selectCount ∧
      reading.order = [plan.key.named] ∧
      (∀ row, database.admits row (plan.page window) = some (found row)) ∧
      ∀ order : List ρ, Table.slice (plan.page window).bindings reading.window order =
        (order.drop window.offset).take window.limit := by
  obtain ⟨front, own, truth, clauses, bindings, means, same⟩ := finds.clauses
  have common : (names [("limit", .int window.limit), ("offset", .int window.offset)]).Sublist
      ["limit", "offset"] := .refl _
  obtain ⟨condition, read, _⟩ :=
    means.reading range plan.select finds.plain (some plan.key) true _ common
  have admits := means.admits range plan.select finds.plain (some plan.key) true _ common
  have bound := Bound.of_nodup (nodup_names range means.distinct means.apart common)
  rw [← clauses, ← bindings] at admits
  rw [← clauses] at read
  rw [← bindings] at bound
  refine ⟨_, read, rfl, finds.apart, rfl,
    fun row => (admits row).trans (congrArg some (same row).symm), fun order => ?_⟩
  have number : ∀ (name : String) (value : Nat),
      (plan.page window).bindings.lookup name = some (.int value) →
      Table.numberOf? (plan.page window).bindings name.toList = some value := by
    intro name value found
    rw [Table.numberOf?, String.ofList_toList, found]
    rfl
  have limit := number "limit" window.limit (bound ("limit", .int window.limit) (by simp))
  have offset := number "offset" window.offset (bound ("offset", .int window.offset) (by simp))
  simp only [Table.slice, if_true, limit, offset]

theorem Table.sortValue_name (table : Table ρ) (bindings : Bindings) (column : Column) (row : ρ) :
    table.sortValue bindings column.name.toList row = table.place row column := by
  have other : (column.name.toList == "rank".toList) = false := by cases column <;> decide +kernel
  rw [Table.sortValue, other, if_neg Bool.false_ne_true, ofExactName?_name]
  rfl

theorem Strategy.key_of_plan {configuration : String} {request : PageRequest}
    {strategy : Strategy} {plan : Plan} (filled : strategy ≠ .columns [])
    (planned : strategy.plan (.ok configuration) request = .ok (some plan)) :
    plan.key = strategy.sortKey request := by
  cases strategy with
  | listing =>
      obtain rfl := Option.some.inj (Except.ok.inj planned)
      rfl
  | columns conditions =>
      cases conditions with
      | nil => exact absurd rfl filled
      | cons first rest =>
          obtain ⟨_, _, _, rfl⟩ := columns_of_plan planned
          rfl
  | fullText expression =>
      obtain rfl := Option.some.inj (Except.ok.inj planned)
      rfl
  | nothing => cases planned

/-- Only a text search sorts by rank. -/
theorem Strategy.fullText_of_rank {request : PageRequest} {strategy : Strategy}
    (ranked : strategy.sortKey request = .rank) :
    ∃ expression, strategy = .fullText expression := by
  cases strategy with
  | fullText expression => exact ⟨expression, rfl⟩
  | columns conditions => simp [Strategy.sortKey, Sql.sortKey] at ranked
  | listing => cases ranked
  | nothing => cases ranked

/-- The sort key of a plan puts rows in the order of their standing. -/
theorem Strategy.mayPrecede_of_plan (table : Table ρ) {configuration : String}
    {request : PageRequest} {strategy : Strategy} {plan : Plan} (filled : strategy ≠ .columns [])
    (planned : strategy.plan (.ok configuration) request = .ok (some plan)) (window : Window)
    (first second : ρ) :
    table.MayPrecede (plan.page window).bindings [plan.key.named] first second ↔
      strategy.standing table configuration request first ≤
        strategy.standing table configuration request second := by
  rw [key_of_plan filled planned]
  cases key : strategy.sortKey request with
  | column column descending =>
      cases descending <;>
        simp only [Table.MayPrecede, SortKey.named, Table.sortValue_name, standing, key,
          Bool.false_eq_true, if_true, if_false, and_true] <;>
        omega
  | rank =>
      obtain ⟨expression, rfl⟩ := fullText_of_rank key
      have made := Option.some.inj (Except.ok.inj planned)
      have value : ∀ row, table.sortValue (plan.page window).bindings "rank".toList row =
          table.rank row configuration (String.ofList expression) := by
        intro row
        rw [← made]
        rfl
      simp only [Table.MayPrecede, SortKey.named, value, standing, key, if_true, and_true]
      omega

end AuditTrail.Service
