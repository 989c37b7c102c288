import AuditTrail.Proofs.Service.Table
import AuditTrail.Search.Response

/-!
# Walks through the pages of a search

Pages are requested one after the other while more records follow.  The sort key is the only thing
that orders the rows, so a store is free in the order of rows with equal keys, and free to change
it between two statements.  What a walk delivers has the keys of the rows that match, but a row may
come twice and another one not at all when their key fills more than one page.
-/

namespace AuditTrail.Service

open Text Query Sql

/-- Whether records follow after a page with a number. -/
def Page.hasMore (page : Page) (number : Nat) (size : Int) : Bool :=
  Search.Response.hasMore ⟨page.hits, page.total, number, size, 0⟩

/-- Pages of a search, requested from a number on until no records follow. -/
inductive Walk (given : Bool) (query : Option String) (request : PageRequest) :
    Nat → State → List Page → State → Prop where
  | last {number : Nat} {state later : State} {page : Page}
      (run : (Action.search given query { request with page := number }).runFrom state =
        (.ok page, later))
      (ends : page.hasMore number request.size = false) :
      Walk given query request number state [page] later
  | next {number : Nat} {state later final : State} {page : Page} {pages : List Page}
      (run : (Action.search given query { request with page := number }).runFrom state =
        (.ok page, later))
      (more : page.hasMore number request.size = true)
      (rest : Walk given query request (number + 1) later pages final) :
      Walk given query request number state (page :: pages) final

theorem length_of_records {room : Nat} {rows hits : List Row}
    (done : Row.records room rows = .ok hits) :
    hits.length = rows.length := by
  induction rows generalizing hits with
  | nil =>
      obtain rfl := Except.ok.inj done
      rfl
  | cons row rest ih =>
      obtain ⟨first, _, done⟩ := ok_of_bind done
      obtain ⟨more, later, done⟩ := ok_of_bind done
      obtain rfl := Except.ok.inj done
      rw [List.length_cons, List.length_cons, ih later]

theorem exists_records {room : Nat} {rows : List Row}
    (readable : ∀ row ∈ rows, ∃ record, row.record room = .ok record) :
    ∃ hits, Row.records room rows = .ok hits := by
  induction rows with
  | nil => exact ⟨[], rfl⟩
  | cons row rest ih =>
      obtain ⟨first, read⟩ := readable row (by simp)
      obtain ⟨more, later⟩ := ih fun other member => readable other (by simp [member])
      exact ⟨first :: more, bind_of_ok read (bind_of_ok later rfl)⟩

variable {ρ : Type}

/-- A page that shows some rows. -/
def Table.Shows (table : Table ρ) (rows : List ρ) (page : Page) : Prop :=
  ∃ statement, Row.records table.room (rows.map (table.cells statement)) = .ok page.hits

/-- Whether all rows can be read as records. -/
def Table.IsReadable (table : Table ρ) : Prop :=
  ∀ statement, ∀ row ∈ table.rows, ∃ record,
    (table.cells statement row).record table.room = .ok record

theorem Table.IsReadable.exists_records {table : Table ρ} (readable : table.IsReadable)
    (statement : Statement) {rows : List ρ} (inside : ∀ row ∈ rows, row ∈ table.rows) :
    ∃ hits, Row.records table.room (rows.map (table.cells statement)) = .ok hits := by
  apply Service.exists_records
  intro row member
  obtain ⟨source, there, rfl⟩ := List.mem_map.mp member
  exact readable statement source (inside source there)

/-- Whether the statements of a search go through the rows in one order, whatever the window. -/
def Strategy.Steady (strategy : Strategy) (order : Nat → Statement → List ρ)
    (configuration : String) (request : PageRequest) : Prop :=
  ∀ plan, strategy.plan (.ok configuration) request = .ok (some plan) →
    ∀ (number other : Nat) (window another : Window),
      order number (plan.page window) = order other (plan.page another)

/-- A state in which a strategy gets a session, and a configuration if it needs one, and a table
answers it. -/
structure Serving (table : Table ρ) (order : Nat → Statement → List ρ) (given : Bool)
    (strategy : Strategy) (configuration : String) (state : State) : Prop where
  session : Action.CanOpen given state
  serves : table.Serves order state.store
  configuration : strategy.IsFullText → state.view.configuration = .ok configuration

/-- A strategy has one plan under all that it takes for its configuration. -/
theorem Strategy.plan_congr {strategy : Strategy} {one other : Except Fault String}
    (same : strategy.IsFullText → one = other) (request : PageRequest) :
    strategy.plan one request = strategy.plan other request := by
  cases strategy with
  | fullText expression => rw [same trivial]
  | _ => rfl

/-- The rows that a search finds in a table. -/
def Strategy.found (strategy : Strategy) (table : Table ρ) (configuration : String)
    (range : DateRange) : List ρ :=
  table.rows.filter fun row => strategy.finds table.database configuration range row

/-- The order of a steady store. -/
def Strategy.steadyOrder (strategy : Strategy) (order : Nat → Statement → List ρ)
    (configuration : String) (request : PageRequest) : List ρ :=
  match strategy.plan (.ok configuration) request with
  | .ok (some plan) => order 0 (plan.page ⟨0, 0⟩)
  | _ => []

/-- What one page of a search comes to: a slice of an order of the rows that are found. -/
structure Strategy.Turns (strategy : Strategy) (table : Table ρ)
    (order : Nat → Statement → List ρ) (configuration : String) (request : PageRequest)
    (whole : List ρ) (first : Nat) (page : Page) : Prop where
  keyed : Search.SortedBy (strategy.standing table configuration request)
    (strategy.found table configuration request.range) whole
  steady : strategy.Steady order configuration request →
    whole = strategy.steadyOrder order configuration request
  shows : table.Shows ((whole.drop (first * request.size.toNat)).take request.size.toNat) page
  total : page.total = (strategy.found table configuration request.range).length

/-- A search for nothing turns to an empty page. -/
theorem Strategy.Turns.nothing (table : Table ρ) (order : Nat → Statement → List ρ)
    (configuration : String) (request : PageRequest) (first : Nat) :
    Strategy.nothing.Turns table order configuration request [] first ⟨[], 0⟩ := by
  have none : Strategy.nothing.found table configuration request.range = [] :=
    List.filter_eq_nil_iff.mpr fun _ _ => Bool.false_ne_true
  exact {
    keyed := by
      rw [none]
      exact ⟨.nil, .nil⟩
    steady := fun _ => rfl
    shows := ⟨⟨[], []⟩, by simp [Row.records]⟩
    total := by
      rw [none]
      rfl }

theorem countOf_int (number : Nat) : Action.countOf (.int number) = .ok (number : Int) := by
  rw [Action.countOf]
  split
  · next falsy =>
      have zero : (number : Int) = 0 := by simpa [Value.isFalsy] using falsy
      rw [zero]
  · rfl

theorem window_ok (first : Nat) {size : Int} (valid : 1 ≤ size ∧ size ≤ 1000) :
    window (first + 1 : Nat) size = .ok ⟨size.toNat, first * size.toNat⟩ := by
  have offset : ((((first + 1 : Nat) : Int) - 1) * size).toNat = first * size.toNat := by
    obtain ⟨number, rfl⟩ : ∃ number : Nat, size = number := ⟨size.toNat, by omega⟩
    have step : ((first + 1 : Nat) : Int) - 1 = first := by omega
    rw [step, ← Int.natCast_mul, Int.toNat_natCast, Int.toNat_natCast]
  rw [window_of_valid (by omega) valid, offset]

/-- A store that goes through the rows as the table keeps them is steady. -/
theorem Strategy.steady_matching (table : Table ρ) {strategy : Strategy} {configuration : String}
    {request : PageRequest} (filled : strategy ≠ .columns []) :
    strategy.Steady (fun _ statement => table.matching statement) configuration request := by
  intro plan planned _ _ window another
  have finds := Strategy.finds_of_plan table.database filled planned
  obtain ⟨_, _, _, _, _, admits, _⟩ := finds.page window
  obtain ⟨_, _, _, _, _, others, _⟩ := finds.page another
  change table.matching _ = table.matching _
  rw [table.matching_eq admits, table.matching_eq others]

/-- The order of an answer to a page sorts the rows that are found. -/
theorem Strategy.sortedBy_of_permits {table : Table ρ} {strategy : Strategy}
    {configuration : String} {request : PageRequest} {plan : Plan} {within : Window}
    {reading : Reading} {order : List ρ} {answer : Answer} (filled : strategy ≠ .columns [])
    (planned : strategy.plan (.ok configuration) request = .ok (some plan))
    (admits : ∀ row, table.database.admits row (plan.page within) =
      some (strategy.finds table.database configuration request.range row))
    (sortKeys : reading.order = [plan.key.named])
    (permits : table.Permits (plan.page within) reading order answer) :
    Search.SortedBy (strategy.standing table configuration request)
      (strategy.found table configuration request.range) order where
  perm := by
    have perm := permits.perm
    rwa [table.matching_eq admits] at perm
  sorted := by
    have keyed := permits.sorted
    rw [sortKeys] at keyed
    exact keyed.imp fun {first second} before =>
      (Strategy.mayPrecede_of_plan table filled planned within first second).mp before

/-- A store that answers from a table gives the count and a slice of an order. -/
theorem page_of_fetches {table : Table ρ} {order : Nat → Statement → List ρ} {store : Store}
    {configuration : String} {request : PageRequest} {strategy : Strategy} {plan : Plan}
    {number : Nat} {within : Window} {outcome : Except Fault Page} {executed : List Statement}
    (readable : table.IsReadable) (serves : table.Serves order store)
    (filled : strategy ≠ .columns [])
    (planned : strategy.plan (.ok configuration) request = .ok (some plan))
    (fetches : Fetches store number plan within outcome executed) :
    ∃ page, outcome = .ok page ∧
      Search.SortedBy (strategy.standing table configuration request)
        (strategy.found table configuration request.range)
        (order (number + 1) (plan.page within)) ∧
      table.Shows (((order (number + 1) (plan.page within)).drop within.offset).take within.limit)
        page ∧
      page.total = (strategy.found table configuration request.range).length := by
  have finds := Strategy.finds_of_plan table.database filled planned
  obtain ⟨countReading, countRead, countTable, counts, countAdmits⟩ := finds.count
  obtain ⟨pageReading, pageRead, pageTable, shows, sortKeys, pageAdmits, slices⟩ :=
    finds.page within
  obtain ⟨count, counted, countPermits⟩ := serves number plan.count countReading countRead
    countTable
  obtain ⟨answer, answered, pagePermits⟩ :=
    serves (number + 1) (plan.page within) pageReading pageRead pageTable
  have sorted := Strategy.sortedBy_of_permits filled planned pageAdmits sortKeys pagePermits
  cases fetches with
  | uncounted fault refused => cases counted.symm.trans refused
  | unfetched other fault _ refused => cases answered.symm.trans refused
  | fetched other another otherCounted otherAnswered =>
      obtain rfl := Except.ok.inj (counted.symm.trans otherCounted)
      obtain rfl := Except.ok.inj (answered.symm.trans otherAnswered)
      have rows := pagePermits.rows shows
      rw [slices] at rows
      have inside : ∀ row ∈ ((order (number + 1) (plan.page within)).drop within.offset).take
          within.limit, row ∈ table.rows := by
        intro row member
        have there := sorted.perm.subset (List.mem_of_mem_drop (List.mem_of_mem_take member))
        exact (List.mem_filter.mp there).1
      obtain ⟨hits, shown⟩ := readable.exists_records (plan.page within) inside
      have read : Row.records answer.room answer.rows = .ok hits := by
        rw [pagePermits.room, rows, shown]
      have total : Action.countOf count.scalar =
          .ok ((strategy.found table configuration request.range).length : Int) := by
        rw [countPermits.scalar counts, table.matching_eq countAdmits]
        exact countOf_int _
      exact ⟨⟨hits, _⟩, bind_of_ok read (bind_of_ok total rfl), sorted, ⟨plan.page within, shown⟩,
        rfl⟩

theorem page_runFrom {table : Table ρ} {order : Nat → Statement → List ρ} {given : Bool}
    {configuration : String} {state : State} (query : Option String) {request : PageRequest}
    (readable : table.IsReadable) (valid : 1 ≤ request.size ∧ request.size ≤ 1000)
    (serving : Serving table order given (Strategy.ofQuery query) configuration state)
    (first : Nat) :
    ∃ page later whole,
      (Action.search given query { request with page := (first + 1 : Nat) }).runFrom state =
        (.ok page, later) ∧
      Serving table order given (Strategy.ofQuery query) configuration later ∧
      (Strategy.ofQuery query).Turns table order configuration request whole first page := by
  obtain ⟨outcome, executed, later, run, continues, ends⟩ :=
    Action.search_comes given query { request with page := (first + 1 : Nat) } state
  rcases ends with ⟨closed, _⟩ | ⟨ready, comes⟩
  · exact absurd serving.session closed
  have next : Serving table order given (Strategy.ofQuery query) configuration later := {
    session := Action.canOpen_of_ready ready
    serves := by
      have same : later.store = state.store := continues.store
      rw [same]
      exact serving.serves
    configuration := fun text => continues.configuration.trans (serving.configuration text) }
  have filled := Strategy.ofQuery_ne query
  cases comes with
  | unfiltered fault refused =>
      obtain ⟨-, text, lacks⟩ := Strategy.lacksConfiguration_of_plan refused
      cases (serving.configuration text).symm.trans lacks
  | outside plan fault planned refused =>
      cases (window_ok first valid).symm.trans refused
  | empty planned =>
      have nothing := Strategy.nothing_of_plan planned
      rw [nothing] at next ⊢
      exact ⟨⟨[], 0⟩, later, [], run, next, .nothing table order configuration request first⟩
  | ran plan within _ _ planned within_ok fetches =>
      rw [Strategy.plan_congr serving.configuration] at planned
      obtain rfl := Except.ok.inj ((window_ok first valid).symm.trans within_ok)
      obtain ⟨page, rfl, keyed, shows, total⟩ :=
        page_of_fetches readable serving.serves filled planned fetches
      refine ⟨page, later, _, run, next, keyed, fun steady => ?_, shows, total⟩
      have same : (Strategy.ofQuery query).plan (.ok configuration) request = .ok (some plan) :=
        planned
      rw [Strategy.steadyOrder, same]
      exact steady plan same _ _ _ _

/-- More records follow a page exactly when the pages so far are shorter than what is found. -/
theorem Strategy.Turns.hasMore_iff {strategy : Strategy} {table : Table ρ}
    {order : Nat → Statement → List ρ} {configuration : String} {request : PageRequest}
    {whole : List ρ} {first : Nat} {page : Page}
    (turns : strategy.Turns table order configuration request whole first page)
    (valid : 1 ≤ request.size)
    (begun : first * request.size.toNat ≤
      (strategy.found table configuration request.range).length) :
    page.hasMore (first + 1) request.size = true ↔
      (first + 1) * request.size.toNat <
        (strategy.found table configuration request.range).length := by
  obtain ⟨statement, shows⟩ := turns.shows
  have hits := length_of_records shows
  rw [List.length_map, List.length_take, List.length_drop, turns.keyed.perm.length_eq] at hits
  obtain ⟨size, sized⟩ : ∃ size : Nat, request.size = size := ⟨request.size.toNat, by omega⟩
  rw [sized, Int.toNat_natCast] at hits begun ⊢
  have offset : (((first + 1 : Nat) : Int) - 1) * (size : Int) = (first * size : Nat) := by
    have step : ((first + 1 : Nat) : Int) - 1 = first := by omega
    rw [step, Int.natCast_mul]
  change decide ((((first + 1 : Nat) : Int) - 1) * (size : Int) + page.hits.length <
    page.total) = true ↔ _
  rw [decide_eq_true_eq, turns.total, offset, hits, Nat.succ_mul]
  omega

/-- A walk comes to an end.  The induction is on the rows that are still to come; before each page
the pages so far are no longer than what is found. -/
theorem exists_walk {table : Table ρ} {order : Nat → Statement → List ρ} {given : Bool}
    {configuration : String} {state : State} (query : Option String) {request : PageRequest}
    (readable : table.IsReadable) (valid : 1 ≤ request.size ∧ request.size ≤ 1000)
    (serving : Serving table order given (Strategy.ofQuery query) configuration state)
    (first : Nat)
    (begun : first * request.size.toNat ≤
      ((Strategy.ofQuery query).found table configuration request.range).length) :
    ∃ pages final wholes, Walk given query request (first + 1) state pages final ∧
      List.Forall₂ table.Shows
        (Search.slices request.size.toNat (first * request.size.toNat) wholes) pages ∧
      (∀ whole ∈ wholes, Search.SortedBy
          ((Strategy.ofQuery query).standing table configuration request)
          ((Strategy.ofQuery query).found table configuration request.range) whole ∧
        ((Strategy.ofQuery query).Steady order configuration request →
          whole = (Strategy.ofQuery query).steadyOrder order configuration request)) ∧
      ((Strategy.ofQuery query).found table configuration request.range).length ≤
        (first + wholes.length) * request.size.toNat := by
  generalize remains : ((Strategy.ofQuery query).found table configuration request.range).length -
    first * request.size.toNat = remaining
  induction remaining using Nat.strong_induction_on generalizing first state with
  | _ remaining ih =>
      obtain ⟨page, later, whole, run, next, turns⟩ :=
        page_runFrom query readable valid serving first
      have own : ∀ other ∈ [whole], Search.SortedBy
          ((Strategy.ofQuery query).standing table configuration request)
          ((Strategy.ofQuery query).found table configuration request.range) other ∧
          ((Strategy.ofQuery query).Steady order configuration request →
            other = (Strategy.ofQuery query).steadyOrder order configuration request) := by
        intro other member
        rw [List.mem_singleton.mp member]
        exact ⟨turns.keyed, turns.steady⟩
      have follows := turns.hasMore_iff valid.1 begun
      cases more : page.hasMore (first + 1) request.size with
      | false =>
          rw [more] at follows
          refine ⟨[page], later, [whole], .last run more, .cons turns.shows .nil, own, ?_⟩
          simpa using follows
      | true =>
          have reached := follows.mp more
          have step : first * request.size.toNat < (first + 1) * request.size.toNat := by
            rw [Nat.succ_mul]
            omega
          obtain ⟨pages, final, wholes, walk, shows, sorted, enough⟩ :=
            ih _ (by omega) next (first + 1) reached.le rfl
          refine ⟨page :: pages, final, whole :: wholes, .next run more walk,
            .cons turns.shows ?_, ?_, ?_⟩
          · rwa [Nat.succ_mul] at shows
          · intro other member
            rcases List.mem_cons.mp member with same | inside
            · exact own other (by simp [same])
            · exact sorted other inside
          · rwa [List.length_cons, Nat.add_comm wholes.length, ← Nat.add_assoc]

/-- There is only one walk from a state. -/
theorem Walk.unique {given : Bool} {query : Option String} {request : PageRequest} {number : Nat}
    {state final last : State} {pages others : List Page}
    (one : Walk given query request number state pages final)
    (other : Walk given query request number state others last) :
    others = pages ∧ last = final := by
  induction one generalizing others with
  | last run ends =>
      cases other with
      | last again _ =>
          obtain ⟨same, rfl⟩ := Prod.mk.inj (again.symm.trans run)
          rw [Except.ok.inj same]
          exact ⟨rfl, rfl⟩
      | next again more _ =>
          obtain ⟨same, _⟩ := Prod.mk.inj (again.symm.trans run)
          rw [Except.ok.inj same, ends] at more
          cases more
  | next run more _ ih =>
      cases other with
      | last again ends =>
          obtain ⟨same, _⟩ := Prod.mk.inj (again.symm.trans run)
          rw [Except.ok.inj same, more] at ends
          cases ends
      | next again _ rest =>
          obtain ⟨same, rfl⟩ := Prod.mk.inj (again.symm.trans run)
          obtain ⟨rfl, rfl⟩ := ih rest
          rw [Except.ok.inj same]
          exact ⟨rfl, rfl⟩

/-- A table of two rows that only differ in their numbers. -/
def twins : Table Nat where
  database := {
    text := fun _ _ => none
    instant := fun _ _ => some 0
    instantOf := fun _ => 0
    like := fun _ _ => false
    ilike := fun _ _ => false
    found := fun _ _ _ => none }
  place _ _ := 0
  rank _ _ _ := 0
  rows := [1, 2]
  cells _ row := [("id", .int row)]
  room := 0

theorem mayPrecede_twins (bindings : Bindings) (keys : List (List Char × Bool))
    (first second : Nat) : twins.MayPrecede bindings keys first second := by
  induction keys with
  | nil => trivial
  | cons key rest ih =>
      have value : ∀ row, twins.sortValue bindings key.1 row = 0 := by
        intro row
        rw [Table.sortValue]
        split
        · split <;> rfl
        · cases Column.ofExactName? key.1 <;> rfl
      exact .inr ⟨(value _).trans (value _).symm, ih⟩

theorem serves_twins {order : Nat → Statement → List Nat}
    (perm : ∀ number statement, (order number statement).Perm (twins.matching statement)) :
    twins.Serves order (twins.store order) :=
  twins.serves_store perm fun _ statement keys =>
    List.pairwise_of_forall (mayPrecede_twins statement.bindings keys)

theorem isReadable_twins : twins.IsReadable :=
  fun _ _ _ => ⟨_, rfl⟩

/-- Every row of the table, one a page, newest first. -/
def oneByOne : PageRequest := ⟨1, 1, ⟨none, none⟩, none, true⟩

/-- A service with a store that keeps the two rows. -/
def serviceOf (order : Nat → Statement → List Nat) : State :=
  .initial [] (.absent []) (twins.store order)

/-- An order that turns round with the second page. -/
def turning (number : Nat) (statement : Statement) : List Nat :=
  if number < 2 then twins.matching statement else (twins.matching statement).reverse

/-- The record of a row of the table. -/
def recordOf (number : Nat) : Row :=
  Column.all.map fun column => (column.name, if column = .id then .int number else .null)

theorem recordOf_injective {number other : Nat} (same : recordOf number = recordOf other) :
    number = other := by
  have first : (recordOf number).head? = (recordOf other).head? := by rw [same]
  simp only [recordOf, Column.all, List.map_cons, List.head?_cons, Option.some.injEq,
    Prod.mk.injEq, if_true, Value.int.injEq, true_and] at first
  exact Int.ofNat.inj first

theorem rows_of_shows_twins {rows : List Nat} {page : Page} {number : Nat}
    (shows : twins.Shows rows page) (hits : page.hits = [recordOf number]) : rows = [number] := by
  obtain ⟨statement, read⟩ := shows
  rw [hits] at read
  have length := length_of_records read
  rw [List.length_map, List.length_singleton] at length
  obtain ⟨row, rfl⟩ := List.length_eq_one_iff.mp length.symm
  have record : Row.records 0 ([row].map (twins.cells statement)) = .ok [recordOf row] := rfl
  have same := Except.ok.inj (record.symm.trans read)
  rw [recordOf_injective (List.singleton_inj.mp same)]

/-- The walk through the pages of a search that has the configuration it needs ends, and it
delivers, in the order of their keys, as many rows with each key as match.  All rows with a key are
delivered once each when one page has room for them, and all rows are when the store keeps to one
order. -/
theorem walk_delivers (table : Table ρ) (order : Nat → Statement → List ρ) (given : Bool)
    (query : Option String) (request : PageRequest) (configuration : String) (state : State)
    (readable : table.IsReadable) (valid : 1 ≤ request.size ∧ request.size ≤ 1000)
    (serving : Serving table order given (Strategy.ofQuery query) configuration state) :
    let found := (Strategy.ofQuery query).found table configuration request.range
    let key := (Strategy.ofQuery query).standing table configuration request
    ∃ pages final shown, Walk given query request 1 state pages final ∧
      List.Forall₂ table.Shows shown pages ∧
      (∀ row ∈ shown.flatten, row ∈ found) ∧
      shown.flatten.Pairwise (fun first second => key first ≤ key second) ∧
      (shown.flatten.map key).Perm (found.map key) ∧
      (∀ value number, Search.Fits key value found request.size.toNat number →
        (Search.tied key value shown.flatten).Perm (Search.tied key value found)) ∧
      ((Strategy.ofQuery query).Steady order configuration request →
        shown.flatten.Perm found) := by
  intro found key
  obtain ⟨pages, final, wholes, walk, shows, sorted, enough⟩ :=
    exists_walk query readable valid serving 0 (by simp)
  rw [Nat.zero_mul] at shows
  have sortedBy : ∀ whole ∈ wholes, Search.SortedBy key found whole :=
    fun whole member => (sorted whole member).1
  have room : found.length ≤ wholes.length * request.size.toNat := by rwa [Nat.zero_add] at enough
  obtain ⟨keys, ascending, perm, delivers⟩ := Search.exists_keys_delivered sortedBy room
  refine ⟨pages, final, _, walk, shows, ?_, ?_, ?_, ?_, ?_⟩
  · intro row member
    obtain ⟨whole, inside, there⟩ := Search.mem_of_mem_delivered member
    exact (sortedBy whole inside).perm.subset there
  · rw [← delivers] at ascending
    exact List.pairwise_map.mp ascending
  · rw [← delivers] at perm
    exact perm
  · intro value number fits
    have all := Search.tied_delivered sortedBy fits 0 enough
    rwa [if_pos (Nat.zero_le number), Nat.zero_mul] at all
  · intro steady
    exact Search.perm_delivered sortedBy (fun whole member => (sorted whole member).2 steady) room

/-- When the order stays, both rows are delivered. -/
theorem walk_delivers_twins :
    ∃ pages final shown,
      Walk true none oneByOne 1 (serviceOf fun _ statement => twins.matching statement) pages
        final ∧
      List.Forall₂ twins.Shows shown pages ∧ shown.flatten.Perm [1, 2] := by
  obtain ⟨pages, final, shown, walk, shows, _, _, _, _, all⟩ :=
    walk_delivers twins (fun _ statement => twins.matching statement) true none oneByOne "english"
      (serviceOf fun _ statement => twins.matching statement) isReadable_twins (by decide)
      ⟨fun _ => .inl rfl, serves_twins fun _ _ => .refl _, fun text => absurd text (by decide)⟩
  exact ⟨pages, final, shown, walk, shows,
    all (Strategy.steady_matching twins (Strategy.ofQuery_ne none))⟩

/-- When the order turns, one row comes on both pages and the other one on neither. -/
theorem walk_repeats :
    twins.Serves turning (serviceOf turning).store ∧
      Strategy.listing.found twins "english" oneByOne.range = [1, 2] ∧
      ∃ pages final, Walk true none oneByOne 1 (serviceOf turning) pages final ∧
        ∀ shown, List.Forall₂ twins.Shows shown pages → shown = [[1], [1]] := by
  have serves : twins.Serves turning (twins.store turning) := by
    refine serves_twins fun number statement => ?_
    rw [turning]
    split
    · exact .refl _
    · exact List.reverse_perm _
  let page (number : Int) := Action.search true none { oneByOne with page := number }
  have first : ((page (1 : Nat)).runFrom (serviceOf turning)).1 = .ok ⟨[recordOf 1], 2⟩ := rfl
  have second : ((page (2 : Nat)).runFrom ((page (1 : Nat)).runFrom (serviceOf turning)).2).1 =
      .ok ⟨[recordOf 1], 2⟩ := rfl
  refine ⟨serves, rfl, _, _, .next (Prod.ext first rfl) rfl (.last (Prod.ext second rfl) rfl), ?_⟩
  rintro _ (_ | ⟨one, _ | ⟨other, _ | _⟩⟩)
  rw [rows_of_shows_twins one rfl, rows_of_shows_twins other rfl]

end AuditTrail.Service
