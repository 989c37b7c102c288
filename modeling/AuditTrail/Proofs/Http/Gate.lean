import AuditTrail.Proofs.Http.Startup
import AuditTrail.Proofs.Service.Bounds

/-!
# The gate before the store

A search or a listing executes statements only for parameters that are all acceptable, and it
executes them with exactly what the parameters ask for.
-/

namespace AuditTrail.Service

/-- Whether the bounds on the time are moments in universal time. -/
def PageRequest.IsUtc (request : PageRequest) : Prop :=
  ∀ m, request.range.first = some m ∨ request.range.last = some m → m.zone = some .utc

end AuditTrail.Service

namespace AuditTrail.Http

open Service Action

/-- Whether a request passes all checks, and what it asks for then. -/
inductive Request.Passes (request : Request) (freeForm : FreeForm) (view : View) :
    PageRequest → Prop where
  | search (posted : request.IsSearch) (entries : List (String × Value))
      (read : request.json? = .ok (some (.map entries))) (parameters : SearchParameters)
      (asks : AsksToSearch freeForm view.dateZone (Settings.entry (.map entries)) parameters) :
      request.Passes freeForm view parameters.page
  | listing (listed : request.IsListing) (size : Int) (sized : view.listingSize = .ok size)
      (page : PageRequest)
      (asks : Asks freeForm view.dateZone size (fieldValue request.target) page) :
      request.Passes freeForm view page

theorem searchParameters_eq_ok_iff {freeForm : FreeForm} {zone : Zone} {request : Request}
    {parameters : SearchParameters} : searchParameters freeForm zone request = .ok parameters ↔
      ∃ entries, request.json? = .ok (some (.map entries)) ∧
        AsksToSearch freeForm zone (Settings.entry (.map entries)) parameters := by
  rw [searchParameters]
  cases request.json? with
  | error trouble => simp
  | ok body =>
      cases body with
      | none => simp [SearchParameters.read]
      | some value =>
          cases value <;> simp [SearchParameters.read, SearchParameters.readEntries_eq_ok_iff]

theorem listingParameters_eq_ok_iff {freeForm : FreeForm} {zone : Zone} {size : Except Fault Int}
    {request : Request} {page : PageRequest} :
    listingParameters freeForm zone size request = .ok page ↔ ∃ default, size = .ok default ∧
      Asks freeForm zone default (fieldValue request.target) page ∧ page.sort = none ∧
        page.descending = true := by
  cases size with
  | error fault => simp [listingParameters]
  | ok default => simp [listingParameters, readListing_eq_ok_iff]

theorem Asks.isUtc {freeForm : FreeForm} {zone : Zone} {defaultSize : Int} {field : String → Value}
    {request : PageRequest} (asks : Asks freeForm zone defaultSize field request) :
    request.IsUtc := by
  rintro m (first | last)
  · exact Value.zone_of_toMoment? (asks.earliest.trans (congrArg Except.ok first))
  · exact Value.zone_of_toMoment? (asks.latest.trans (congrArg Except.ok last))

/-- A search gets no session and executes nothing, or executes what is asked for. -/
theorem executes_of_ends {store : Store} {number : Nat} {configuration : Except Fault String}
    {request : PageRequest} {strategy : Strategy} {outcome : Except Fault Page}
    {executed : List Sql.Statement} {closed ready failed : Prop}
    (first : 1 ≤ request.page) (within : 1 ≤ request.size ∧ request.size ≤ 1000)
    (ends : (closed ∧ executed = [] ∧ failed) ∨
      (ready ∧ Comes store number configuration request strategy outcome executed)) :
    request.Executes executed := by
  rcases ends with ⟨_, rfl, _⟩ | ⟨_, comes⟩
  · exact .nothing
  · exact comes.executes first within

theorem runSearch_executes (clock : Clock) {parameters : SearchParameters}
    (first : 1 ≤ parameters.page.page)
    (within : 1 ≤ parameters.page.size ∧ parameters.page.size ≤ 1000) (state : State) :
    ∃ executed, ((runSearch clock parameters).runFrom state).2.view.statements =
      state.view.statements ++ executed ∧ parameters.page.Executes executed := by
  obtain ⟨outcome, executed, later, run, continues, ends⟩ :=
    search_comes false (some parameters.query) parameters.page state
  obtain ⟨entries, runs⟩ := runSearch_runFrom clock parameters run
  refine ⟨executed, ?_, executes_of_ends first within ends⟩
  rw [runs]
  exact continues.statements

theorem runListing_executes (clock : Clock) {request : PageRequest} (first : 1 ≤ request.page)
    (within : 1 ≤ request.size ∧ request.size ≤ 1000) (state : State) :
    ∃ executed, ((runListing clock request).runFrom state).2.view.statements =
      state.view.statements ++ executed ∧ request.Executes executed := by
  obtain ⟨outcome, executed, later, run, continues, ends⟩ := list_comes false request state
  obtain ⟨entries, runs⟩ := runListing_runFrom clock request run
  refine ⟨executed, ?_, executes_of_ends first within ends⟩
  rw [runs]
  exact continues.statements

namespace Application

variable {application : Application} {clock : Clock} {request : Request} {endpoint : Endpoint}
  {state : State}

/-- The parameters of a request are refused and nothing is executed, or they are read and what is
executed is what the work with them executes. -/
theorem serve_cases {α : Type} {parameters : Except Refusal α} {work : α → Action Outcome}
    {entries : List LogEntry} {page : α → PageRequest}
    (reaches : request.Reaches endpoint)
    (handles : (handle clock request endpoint).runFrom (state.entered application.settings) =
      (withParameters parameters work).runFrom
        ((state.entered application.settings).logged entries))
    (works : ∀ read, parameters = .ok read → ∀ state : State, ∃ executed,
      ((work read).runFrom state).2.view.statements = state.view.statements ++ executed ∧
        (page read).Executes executed) :
    let later := ((serve application clock request).runFrom state).2
    (∃ read executed, parameters = .ok read ∧
        later.journal.statements = state.journal.statements ++ executed ∧
        (page read).Executes executed) ∨
      ((∀ read, parameters ≠ .ok read) ∧ state.IsUntouched later) := by
  cases read : parameters with
  | error refusal =>
      obtain ⟨later, serves, untouched⟩ := serve_refused reaches handles read
      rw [serves]
      exact .inr ⟨nofun, untouched⟩
  | ok accepted =>
      obtain ⟨executed, statements, executes⟩ := works accepted read
        ((state.entered application.settings).logged entries)
      refine .inl ⟨accepted, executed, rfl, ?_, executes⟩
      rw [read] at handles
      cases run : (work accepted).runFrom
          ((state.entered application.settings).logged entries) with
      | mk outcome handled =>
          obtain ⟨more, serves⟩ := serve_runFrom application reaches (handles.trans run)
          rw [run] at statements
          rw [serves, State.statements_released, State.statements_logged]
          exact statements

/-- A search passes all checks, and executes what it asks for, or it is left alone. -/
theorem serve_search (posted : request.IsSearch) :
    let view := (state.entered application.settings).view
    let later := ((serve application clock request).runFrom state).2
    (∃ page executed, request.Passes clock.freeForm view page ∧ page.IsUtc ∧
        later.journal.statements = state.journal.statements ++ executed ∧
        page.Executes executed) ∨
      ((∀ page, ¬ request.Passes clock.freeForm view page) ∧ state.IsUntouched later) := by
  intro view later
  obtain ⟨logs, handles⟩ :=
    handle_search_runFrom clock request (state.entered application.settings)
  have works : ∀ parameters, searchParameters clock.freeForm view.dateZone request =
      .ok parameters → ∀ state : State, ∃ executed,
        ((runSearch clock parameters).runFrom state).2.view.statements =
          state.view.statements ++ executed ∧ parameters.page.Executes executed := by
    intro parameters read
    obtain ⟨_, _, asks⟩ := searchParameters_eq_ok_iff.mp read
    exact runSearch_executes clock asks.first asks.within
  rcases serve_cases posted.reaches handles works with
    ⟨parameters, executed, read, statements, executes⟩ | ⟨unread, untouched⟩
  · obtain ⟨entries, body, asks⟩ := searchParameters_eq_ok_iff.mp read
    exact .inl ⟨parameters.page, executed, .search posted entries body parameters asks,
      asks.toAsks.isUtc, statements, executes⟩
  · refine .inr ⟨fun page passes => ?_, untouched⟩
    cases passes with
    | search _ entries body parameters asks =>
        exact unread parameters (searchParameters_eq_ok_iff.mpr ⟨entries, body, asks⟩)
    | listing listed => exact absurd (posted.1.symm.trans listed.1) (by decide)

/-- A listing passes all checks, and executes what it asks for, or it is left alone. -/
theorem serve_listing (listed : request.IsListing) :
    let view := (state.entered application.settings).view
    let later := ((serve application clock request).runFrom state).2
    (∃ page executed, request.Passes clock.freeForm view page ∧ page.IsUtc ∧
        later.journal.statements = state.journal.statements ++ executed ∧
        page.Executes executed) ∨
      ((∀ page, ¬ request.Passes clock.freeForm view page) ∧ state.IsUntouched later) := by
  intro view later
  obtain ⟨logs, handles⟩ :=
    handle_list_runFrom clock request (state.entered application.settings)
  have works : ∀ page, listingParameters clock.freeForm view.dateZone view.listingSize request =
      .ok page → ∀ state : State, ∃ executed,
        ((runListing clock page).runFrom state).2.view.statements =
          state.view.statements ++ executed ∧ page.Executes executed := by
    intro page read
    obtain ⟨_, _, asks, _⟩ := listingParameters_eq_ok_iff.mp read
    exact runListing_executes clock asks.first asks.within
  rcases serve_cases listed.reaches handles works with
    ⟨page, executed, read, statements, executes⟩ | ⟨unread, untouched⟩
  · obtain ⟨size, sized, asks, _⟩ := listingParameters_eq_ok_iff.mp read
    exact .inl ⟨page, executed, .listing listed size sized page asks, asks.isUtc, statements,
      executes⟩
  · refine .inr ⟨fun page passes => ?_, untouched⟩
    cases passes with
    | search posted => exact absurd (posted.1.symm.trans listed.1) (by decide)
    | listing _ size sized page asks =>
        -- What is asked for says nothing of the order.
        have unsorted : Asks clock.freeForm view.dateZone size (fieldValue request.target)
            ⟨page.page, page.size, page.range, none, true⟩ :=
          ⟨asks.number, asks.first, asks.size, asks.within, asks.earliest, asks.latest⟩
        exact unread _ (listingParameters_eq_ok_iff.mpr ⟨size, sized, unsorted, rfl, rfl⟩)

/-- A search or a listing for which a check fails executes nothing and opens no session.  Where
all checks pass, every statement that is executed is bound with the requested bounds on the time,
in universal time, and the one that gives the page with the requested window. -/
theorem passes_or_untouched (application : Application) (clock : Clock) (request : Request)
    (state : State) (asked : request.IsSearch ∨ request.IsListing) :
    let view := (state.entered application.settings).view
    let later := ((serve application clock request).runFrom state).2
    (∃ page executed, request.Passes clock.freeForm view page ∧ page.IsUtc ∧
        later.journal.statements = state.journal.statements ++ executed ∧
        page.Executes executed) ∨
      ((∀ page, ¬ request.Passes clock.freeForm view page) ∧ state.IsUntouched later) := by
  rcases asked with posted | listed
  · exact serve_search posted
  · exact serve_listing listed

/-- The second page of five records: its statement is bound with both numbers. -/
theorem passes_or_untouched_second :
    ∃ count page,
      ((serve ⟨[("TZ", .zone .utc)], none⟩ stillClock (listingOf "from=2&size=5")).runFrom
        (withSettings "")).2.journal.statements = [count, page] ∧
      page.bindings.lookup "limit" = some (.int 5) ∧
      page.bindings.lookup "offset" = some (.int 5) := by
  have two : ((serve ⟨[("TZ", .zone .utc)], none⟩ stillClock
      (listingOf "from=2&size=5")).runFrom (withSettings "")).2.journal.statements.length = 2 := by
    decide +kernel
  rcases passes_or_untouched ⟨[("TZ", .zone .utc)], none⟩ stillClock (listingOf "from=2&size=5")
    (withSettings "") (.inr ⟨rfl, rfl⟩) with
    ⟨asked, executed, passes, _, statements, executes⟩ | ⟨_, untouched⟩
  · rw [statements] at two ⊢
    have value {name : String} (text : List Char)
        (found : (listingOf "from=2&size=5").target.field? name = some text) :
        fieldValue (listingOf "from=2&size=5").target name = .text (String.ofList text) := by
      rw [fieldValue, found]
    cases passes with
    | search posted => exact absurd posted.1 (by decide)
    | listing _ _ _ _ asks =>
        obtain ⟨number, second, paged⟩ := asks.number
        rw [value ['2'] (by decide +kernel)] at second
        obtain rfl : some 2 = number := Except.ok.inj second
        obtain ⟨number, five, sized⟩ := asks.size
        rw [value ['5'] (by decide +kernel)] at five
        obtain rfl : some 5 = number := Except.ok.inj five
        cases executes with
        | nothing => cases two
        | counted => cases two
        | fetched count page _ _ window =>
            refine ⟨count, page, rfl, window.limit.trans ?_, window.offset.trans ?_⟩
            · rw [← sized]
              rfl
            · rw [← sized, ← paged]
              rfl
  · rw [untouched.statements] at two
    cases two

end Application

end AuditTrail.Http
