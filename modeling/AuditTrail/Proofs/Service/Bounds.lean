import AuditTrail.Proofs.Service.Parameters

/-!
# The window and the bounds of a search

Both statements of a search are bound with the requested bounds on the time, and the one that gives
a page with the requested window.
-/

namespace AuditTrail.Sql

theorem lookup_of_not_mem {bindings : Bindings} {name : String} (unbound : name ∉ names bindings) :
    bindings.lookup name = none := by
  rw [List.lookup_eq_none_iff]
  intro entry bound
  rw [bne_iff_ne]
  rintro rfl
  exact unbound (List.mem_map_of_mem bound)

/-- Bindings that stay clear of a name do not hide it. -/
theorem lookup_append_of_not_mem {front : Bindings} {name : String} (unbound : name ∉ names front)
    (back : Bindings) : (front ++ back).lookup name = back.lookup name := by
  rw [List.lookup_append, lookup_of_not_mem unbound]
  rfl

/-- Whether a statement is bound with some bounds on the time, and with no others. -/
structure Statement.IsBounded (statement : Statement) (range : DateRange) : Prop where
  first : statement.bindings.lookup "from_date" = range.first.map Value.moment
  last : statement.bindings.lookup "to_date" = range.last.map Value.moment

theorem lookup_range (range : DateRange) (window : Bindings)
    (common : (names window).Sublist ["limit", "offset"]) :
    (range.bindings ++ window).lookup "from_date" = range.first.map Value.moment ∧
      (range.bindings ++ window).lookup "to_date" = range.last.map Value.moment := by
  have first : window.lookup "from_date" = none :=
    lookup_of_not_mem fun bound => absurd (common.subset bound) (by decide)
  have last : window.lookup "to_date" = none :=
    lookup_of_not_mem fun bound => absurd (common.subset bound) (by decide)
  obtain ⟨_ | _, _ | _⟩ := range <;> simp [DateRange.bindings, List.lookup_cons, first, last]

end AuditTrail.Sql

namespace AuditTrail.Service

open Sql

/-- Whether a statement is bound with the window of a request. -/
structure PageRequest.IsWindowOf (request : PageRequest) (statement : Statement) : Prop where
  limit : statement.bindings.lookup "limit" = some (.int request.size)
  offset : statement.bindings.lookup "offset" =
    some (.int ((request.page - 1) * request.size))
  reached : 0 ≤ (request.page - 1) * request.size

/-- The statements that may be executed for a request. -/
inductive PageRequest.Executes (request : PageRequest) : List Statement → Prop where
  | nothing : request.Executes []
  | counted (count : Statement) (bounded : count.IsBounded request.range) :
      request.Executes [count]
  | fetched (count page : Statement) (counts : count.IsBounded request.range)
      (fetches : page.IsBounded request.range) (window : request.IsWindowOf page) :
      request.Executes [count, page]

/-- The parameters of a plan: its own, which stay clear of the others, and the bounds. -/
theorem Strategy.bindings_of_plan {configuration : Except Fault String} {request : PageRequest}
    {strategy : Strategy} {plan : Plan}
    (planned : strategy.plan configuration request = .ok (some plan)) :
    ∃ own, plan.bindings = own ++ request.range.bindings ∧
      ∀ name ∈ names own, name ∉ commonNames := by
  obtain ⟨_, own, filled, _, bindings, _⟩ := areFilled_of_plan planned
  exact ⟨own, bindings, filled.apart⟩

variable {configuration : Except Fault String} {request : PageRequest} {strategy : Strategy}
  {plan : Plan}

/-- Bounds on the time are bound behind the parameters of a plan, whatever else its text has. -/
theorem Strategy.isBounded_of_plan
    (planned : strategy.plan configuration request = .ok (some plan)) (text : List Char)
    {window : Bindings} (common : (names window).Sublist ["limit", "offset"]) :
    Statement.IsBounded ⟨text, plan.bindings ++ window⟩ request.range := by
  obtain ⟨own, bindings, apart⟩ := bindings_of_plan planned
  obtain ⟨first, last⟩ := lookup_range request.range window common
  constructor
  · rw [bindings, List.append_assoc,
      lookup_append_of_not_mem fun bound => apart _ bound (by decide)]
    exact first
  · rw [bindings, List.append_assoc,
      lookup_append_of_not_mem fun bound => apart _ bound (by decide)]
    exact last

theorem Strategy.isBounded_count (planned : strategy.plan configuration request = .ok (some plan)) :
    plan.count.IsBounded request.range := by
  have windowless : (names []).Sublist ["limit", "offset"] := List.nil_sublist _
  have bounded := isBounded_of_plan planned plan.count.text windowless
  rwa [List.append_nil] at bounded

theorem Strategy.isBounded_page (planned : strategy.plan configuration request = .ok (some plan))
    (window : Window) : (plan.page window).IsBounded request.range :=
  isBounded_of_plan planned _ (List.Sublist.refl _)

theorem Strategy.isWindowOf_page (planned : strategy.plan configuration request = .ok (some plan))
    (first : 1 ≤ request.page) (within : 1 ≤ request.size ∧ request.size ≤ 1000) :
    request.IsWindowOf
      (plan.page ⟨request.size.toNat, ((request.page - 1) * request.size).toNat⟩) := by
  have bindings := (isPair_of_plan plan first within).bindings
  have distinct := ((isFilled_of_plan planned).2
    ⟨request.size.toNat, ((request.page - 1) * request.size).toNat⟩).1
  constructor
  · refine lookup_of_mem distinct (?_ : ("limit", Value.int request.size) ∈ _)
    rw [bindings]
    simp
  · refine lookup_of_mem distinct
      (?_ : ("offset", Value.int ((request.page - 1) * request.size)) ∈ _)
    rw [bindings]
    simp
  · exact Int.mul_nonneg (by omega) (by omega)

/-- What a search in range comes to is executed as it was requested. -/
theorem Comes.executes {store : Store} {number : Nat} {outcome : Except Fault Page}
    {executed : List Statement}
    (comes : Comes store number configuration request strategy outcome executed)
    (first : 1 ≤ request.page) (within : 1 ≤ request.size ∧ request.size ≤ 1000) :
    request.Executes executed := by
  cases comes with
  | unfiltered => exact .nothing
  | empty => exact .nothing
  | outside => exact .nothing
  | ran plan window _ _ planned valid fetches =>
      obtain rfl := Except.ok.inj ((window_of_valid first within).symm.trans valid)
      have counts := Strategy.isBounded_count planned
      have page := PageRequest.Executes.fetched _ _ counts (Strategy.isBounded_page planned _)
        (Strategy.isWindowOf_page planned first within)
      cases fetches with
      | uncounted => exact .counted _ counts
      | unfetched => exact page
      | fetched => exact page

end AuditTrail.Service
